import Rebac.Proofs.AllOrNothing
import Rebac.Proofs.WireForms

set_option autoImplicit false

/-!
# What the filter of a deletion keeps

A filter that is given as data is read part by part and brought into wire form part by part. Of each
part only the entries under known keys are looked at, and identifiers are listed, whatever they are.
So nothing that the caller wrote is lost exactly if the filter is plain: every entry that counts is
under a known key, and identifiers are a collection of values (`keeps_iff`). A filter that is not
plain may be sent without the constraint that the caller wrote (`misspelt_subject_not_kept`).
-/

namespace Rebac

open Write

namespace Value

/-- The values of a collection. A text is no collection, although its characters can be listed. -/
def listed? : Value → Option (List Value)
  | .list xs | .tuple xs | .set xs => some xs
  | _ => Option.none

theorem items_of_listed? {v : Value} {xs : List Value} (h : v.listed? = some xs) :
    v.items = .ok xs := by
  cases v with
  | list ys =>
      cases h
      rfl
  | tuple ys =>
      cases h
      rfl
  | set ys =>
      cases h
      rfl
  | _ => cases h

end Value

namespace Filter

variable {es ps ws : Entries Value} {part : Value} {relational : Bool}

/-! ## Filters that are kept -/

/-- In a part, identifiers are kept as the same list and anything else as the same value. -/
inductive KeptInPart : Key → Value → Value → Prop
  | ids {v : Value} {xs : List Value} (h : v.listed? = some xs) :
      KeptInPart (.text "ids") v (.list xs)
  | other {k : Key} {v : Value} (h : k ≠ .text "ids") : KeptInPart k v v

/-- Every entry that counts is there and kept. -/
def EntriesKept (kept : Key → Value → Value → Prop) (es ws : Entries Value) : Prop :=
  ∀ k v, (k, v) ∈ es → v.truthy = true → ∃ w, Entries.get? ws k = some w ∧ kept k v w

/-- In a filter, the entity and the subject are kept entry by entry and anything else as the same
value. -/
inductive Kept : Key → Value → Value → Prop
  | part {k : Key} {ps qs : Entries Value} (hk : k = .text "entity" ∨ k = .text "subject")
      (h : EntriesKept KeptInPart ps qs) : Kept k (.map ps) (.map qs)
  | other {k : Key} {v : Value} (hk : k ≠ .text "entity" ∧ k ≠ .text "subject") : Kept k v v

/-- What is sent keeps every entry of a filter. -/
def Keeps (es : Entries Value) (sent : Value) : Prop :=
  ∃ ws, sent = .map ws ∧ EntriesKept Kept es ws

/-! ## Plain filters -/

/-- The keys of a filter. -/
def names : List String := ["entity", "relation", "subject"]

/-- The keys of a part of a filter; that of the subject has a relation, too. -/
def partNames (relational : Bool) : List String :=
  ["type", "ids"] ++ if relational then ["relation"] else []

/-- Every entry that counts is under one of these keys. -/
def OnlyNames (ns : List String) (es : Entries Value) : Prop :=
  ∀ k v, (k, v) ∈ es → v.truthy = true → ∃ n ∈ ns, k = .text n

/-- A part with known keys, whose identifiers are a collection. -/
structure IsPlainPart (relational : Bool) (ps : Entries Value) : Prop where
  names : OnlyNames (partNames relational) ps
  ids : ∀ v, (Key.text "ids", v) ∈ ps → v.truthy = true → ∃ xs, v.listed? = some xs

/-- A filter with known keys, whose parts are plain. -/
structure IsPlain (es : Entries Value) : Prop where
  names : OnlyNames Filter.names es
  entity : ∀ ps, (Key.text "entity", Value.map ps) ∈ es → IsPlainPart false ps
  subject : ∀ ps, (Key.text "subject", Value.map ps) ∈ es → IsPlainPart true ps

/-- No mapping inside a filter has two entries under the same key. -/
def HasDistinctParts (es : Entries Value) : Prop :=
  ∀ k ps, (k, Value.map ps) ∈ es → Entries.Distinct ps

/-! ## What is sent -/

/-- The value under a text, or nothing. -/
def valueOf (es : Entries Value) (name : String) : Value :=
  (Entries.get? es (.text name)).getD .none

/-- The wire form of a part with this type and these identifiers. -/
def partFields (relational : Bool) (ps : Entries Value) (type : Value) (ids : List Value) :
    List (String × Value) :=
  [("type", type), ("ids", .list ids)] ++
    if relational then wireRelation (valueOf ps "relation") else []

/-- What is sent for a part of a filter: nothing if the part does not count, and otherwise its type,
its identifiers as a list and, for a subject, its relation. -/
inductive SentPart (name : String) (relational : Bool) (part : Value) :
    List (String × Value) → Prop
  | absent (h : part.truthy = false) : SentPart name relational part []
  | present {ps : Entries Value} {type : Value} {ids : List Value} (hpart : part = .map ps)
      (htruthy : part.truthy = true) (htype : Entries.get? ps (.text "type") = some type)
      (hids : ((valueOf ps "ids").orElse (.tuple [])).items = .ok ids) :
      SentPart name relational part [(name, .record (partFields relational ps type ids))]

/-- The type of a part is an entry of a mapping. -/
theorem exists_map_of_item {v type : Value} {name : String} (h : v.item name = .ok type) :
    ∃ ps, v = .map ps ∧ Entries.get? ps (.text name) = some type := by
  cases v with
  | map ps =>
      rw [Value.item] at h
      cases hget : Entries.get? ps (.text name) with
      | some w =>
          rw [hget] at h
          cases h
          exact ⟨ps, rfl, hget⟩
      | none =>
          rw [hget] at h
          cases h
  | _ => cases h

theorem exists_of_readIds {ids : Value} (h : readIds (.map ps) = .ok ids) :
    ∃ xs, ids = .tuple xs ∧ ((valueOf ps "ids").orElse (.tuple [])).items = .ok xs := by
  rw [readIds] at h
  obtain ⟨v, hv, hrest⟩ := exists_of_bind_eq_ok h
  obtain ⟨xs, hxs, hids⟩ := exists_of_bind_eq_ok hrest
  cases hv
  cases hids
  exact ⟨xs, rfl, hxs⟩

/-- What is sent for an entity part that has been read. -/
theorem sentPart_of_readEntity {entity : Option InstanceFilter}
    (h : readEntity part = .ok entity) :
    ∃ fields, SentPart "entity" false part fields ∧
      ∀ r s, wireEntity (Filter.entityRecord ⟨entity, r, s⟩) = .ok fields := by
  cases htruthy : part.truthy with
  | false =>
      rw [readEntity, if_neg (by simp [htruthy])] at h
      cases h
      exact ⟨[], .absent htruthy, fun _ _ => rfl⟩
  | true =>
      rw [readEntity, if_pos htruthy] at h
      obtain ⟨type, htype, h⟩ := exists_of_bind_eq_ok h
      obtain ⟨ids, hids, h⟩ := exists_of_bind_eq_ok h
      cases h
      obtain ⟨ps, rfl, hget⟩ := exists_map_of_item htype
      obtain ⟨xs, rfl, hxs⟩ := exists_of_readIds hids
      exact ⟨_, .present rfl htruthy hget hxs, fun _ _ => rfl⟩

/-- What is sent for a subject part that has been read. -/
theorem sentPart_of_readSubject {subject : Option SubjectFilter}
    (h : readSubject part = .ok subject) :
    ∃ fields, SentPart "subject" true part fields ∧
      ∀ e r, wireSubject (Filter.subjectRecord ⟨e, r, subject⟩) = .ok fields := by
  cases htruthy : part.truthy with
  | false =>
      rw [readSubject, if_neg (by simp [htruthy])] at h
      cases h
      exact ⟨[], .absent htruthy, fun _ _ => rfl⟩
  | true =>
      rw [readSubject, if_pos htruthy] at h
      obtain ⟨type, htype, h⟩ := exists_of_bind_eq_ok h
      obtain ⟨ids, hids, h⟩ := exists_of_bind_eq_ok h
      obtain ⟨relation, hrelation, h⟩ := exists_of_bind_eq_ok h
      cases h
      obtain ⟨ps, rfl, hget⟩ := exists_map_of_item htype
      obtain ⟨xs, rfl, hxs⟩ := exists_of_readIds hids
      cases hrelation
      exact ⟨_, .present rfl htruthy hget hxs, fun _ _ => rfl⟩

/-- What is sent for a filter: its entity, its relation and its subject. -/
inductive Sends (es : Entries Value) : Value → Prop
  | parts {entity subject : List (String × Value)}
      (hentity : SentPart "entity" false (valueOf es "entity") entity)
      (hsubject : SentPart "subject" true (valueOf es "subject") subject) :
      Sends es (.record (entity ++ wireRelation (valueOf es "relation") ++ subject))

/-- **A filter given as data is malformed, or all its parts are sent.** -/
theorem sends_or_invalid (es : Entries Value) :
    (∃ cause, required (.map es) = .error (.parameter (.invalidFilter (.map es) cause))) ∨
      ∃ sent, required (.map es) = .ok sent ∧ Sends es sent := by
  have hrequired : required (.map es) =
      (recordOf (.map es) >>= fun record => record.wire.mapError Failure.access) := rfl
  cases hdata : ofData (.map es) with
  | error cause =>
      refine Or.inl ⟨cause, ?_⟩
      rw [hrequired, recordOf, hdata]
      · rfl
      · rintro _ _ _ ⟨⟩
  | ok f =>
      -- What is sent is the wire form of the record, so each part is followed through both.
      have hrecord : recordOf (.map es) = .ok f.toRecord := by
        rw [recordOf, hdata]
        · rfl
        · rintro _ _ _ ⟨⟩
      rw [ofData] at hdata
      obtain ⟨entity, hfoundEntity, hdata⟩ := exists_of_bind_eq_ok hdata
      cases hfoundEntity
      obtain ⟨subject, hfoundSubject, hdata⟩ := exists_of_bind_eq_ok hdata
      cases hfoundSubject
      obtain ⟨entityFilter, hreadEntity, hdata⟩ := exists_of_bind_eq_ok hdata
      obtain ⟨relation, hfoundRelation, hdata⟩ := exists_of_bind_eq_ok hdata
      cases hfoundRelation
      obtain ⟨subjectFilter, hreadSubject, hdata⟩ := exists_of_bind_eq_ok hdata
      cases hdata
      obtain ⟨entityFields, hentity, hwireEntity⟩ := sentPart_of_readEntity hreadEntity
      obtain ⟨subjectFields, hsubject, hwireSubject⟩ := sentPart_of_readSubject hreadSubject
      refine Or.inr ⟨_, ?_, .parts hentity hsubject⟩
      rw [hrequired, hrecord]
      change (Filter.toRecord _).wire.mapError Failure.access = _
      rw [wire_toRecord, toValue, wire, hwireEntity, hwireSubject]
      change Except.ok (Value.record (entityFields ++ wireRelation (Value.orElse _ .none) ++
        subjectFields)) = _
      rw [wireRelation_orElse]
      rfl

/-! ## What is kept -/

/-- Whatever is kept is under a key that is sent. -/
theorem onlyNames_of_entriesKept {kept : Key → Value → Value → Prop} {fs : List (String × Value)}
    {ns : List String} (hnames : ∀ f ∈ fs, f.1 ∈ ns)
    (h : EntriesKept kept es (Entries.named fs)) : OnlyNames ns es := by
  intro k v hv htruthy
  obtain ⟨w, hw, -⟩ := h k v hv htruthy
  obtain ⟨f, hf, rfl⟩ := Entries.exists_of_get?_named hw
  exact ⟨f.1, hnames f hf, rfl⟩

section Part

variable {type : Value} {ids : List Value}

theorem mem_partNames_of_mem_partFields {f : String × Value}
    (h : f ∈ partFields relational ps type ids) : f.1 ∈ partNames relational := by
  rcases List.mem_append.1 h with h | h
  · refine List.mem_append_left _ ?_
    rcases List.mem_cons.1 h with rfl | h
    · exact List.mem_cons_self
    · rw [List.mem_singleton.1 h]
      exact List.mem_cons_of_mem _ List.mem_cons_self
  · refine List.mem_append_right _ ?_
    cases relational with
    | false => cases h
    | true =>
        rw [eq_relation_of_mem_wireRelation h]
        exact List.mem_cons_self

/-- Every entry of a plain part is kept. -/
theorem exists_kept_of_plain {k : Key} {v : Value} (hd : Entries.Distinct ps)
    (htype : Entries.get? ps (.text "type") = some type)
    (hids : ((valueOf ps "ids").orElse (.tuple [])).items = .ok ids)
    (h : IsPlainPart relational ps) (hv : (k, v) ∈ ps) (htruthy : v.truthy = true) :
    ∃ w, Entries.get? (Entries.named (partFields relational ps type ids)) k = some w ∧
      KeptInPart k v w := by
  obtain ⟨n, hn, rfl⟩ := h.names k v hv htruthy
  have hget := Entries.get?_text_of_mem hd hv
  rcases List.mem_append.1 hn with hn | hn
  · rcases List.mem_cons.1 hn with rfl | hn
    · rw [hget] at htype
      cases htype
      exact ⟨type, by simp [partFields, Entries.get?_named_cons], .other (by simp)⟩
    · cases List.mem_singleton.1 hn
      obtain ⟨xs, hxs⟩ := h.ids v hv htruthy
      -- A collection is listed as it is.
      have hsame : ids = xs := by
        rw [valueOf, hget, Option.getD_some, Value.orElse_of_truthy htruthy,
          Value.items_of_listed? hxs] at hids
        exact (Except.ok.inj hids).symm
      exact ⟨.list ids, by simp [partFields, Entries.get?_named_cons], hsame ▸ .ids hxs⟩
  · cases relational with
    | false => cases hn
    | true =>
        cases List.mem_singleton.1 hn
        refine ⟨v, ?_, .other (by simp)⟩
        simp [partFields, valueOf, hget, wireRelation_of_truthy htruthy, Entries.get?_named_cons]

/-- **A part keeps its entries exactly if it is plain.** -/
theorem entriesKept_part_iff (hd : Entries.Distinct ps)
    (htype : Entries.get? ps (.text "type") = some type)
    (hids : ((valueOf ps "ids").orElse (.tuple [])).items = .ok ids) :
    EntriesKept KeptInPart ps (Entries.named (partFields relational ps type ids)) ↔
      IsPlainPart relational ps := by
  constructor
  · intro h
    refine ⟨onlyNames_of_entriesKept (fun f => mem_partNames_of_mem_partFields) h, ?_⟩
    intro v hv htruthy
    obtain ⟨w, -, hkept⟩ := h _ v hv htruthy
    cases hkept with
    | ids hlisted => exact ⟨_, hlisted⟩
    | other hne => exact absurd rfl hne
  · intro h k v hv htruthy
    exact exists_kept_of_plain hd htype hids h hv htruthy

end Part

/-- A part without entries is plain. -/
theorem isPlainPart_nil : IsPlainPart relational [] where
  names _ _ hv := by cases hv
  ids _ hv := by cases hv

/-- A part that counts is sent, and what is sent keeps its entries exactly if the part is plain. -/
theorem SentPart.exists_of_truthy {name : String} {fields : List (String × Value)}
    (h : SentPart name relational part fields) (htruthy : part.truthy = true)
    (hd : ∀ ps, part = .map ps → Entries.Distinct ps) :
    ∃ ps qs, part = .map ps ∧ fields = [(name, .map qs)] ∧
      (EntriesKept KeptInPart ps qs ↔ IsPlainPart relational ps) := by
  cases h with
  | absent hnot =>
      rw [hnot] at htruthy
      cases htruthy
  | present hpart _ htype hids =>
      exact ⟨_, _, hpart, rfl, entriesKept_part_iff (hd _ hpart) htype hids⟩

theorem SentPart.name_eq {name : String} {fields : List (String × Value)} {f : String × Value}
    (h : SentPart name relational part fields) (hf : f ∈ fields) : f.1 = name := by
  cases h with
  | absent _ => cases hf
  | present _ _ _ _ => rw [List.mem_singleton.1 hf]

theorem SentPart.eq_nil_iff {name : String} {fields : List (String × Value)}
    (h : SentPart name relational part fields) : fields = [] ↔ part.truthy = false := by
  cases h with
  | absent hnot => exact ⟨fun _ => hnot, fun _ => rfl⟩
  | present _ htruthy _ _ => simp [htruthy]

section Whole

variable {name : String} {fields : List (String × Value)}

theorem valueOf_of_mem {v : Value} (hd : Entries.Distinct es) (h : (Key.text name, v) ∈ es) :
    valueOf es name = v := by
  rw [valueOf, Entries.get?_text_of_mem hd h]
  rfl

/-- A part that is kept is plain. -/
theorem isPlainPart_of_kept (hd : Entries.Distinct es) (hparts : HasDistinctParts es)
    (hname : name = "entity" ∨ name = "subject")
    (hsent : SentPart name relational (valueOf es name) fields)
    (hlookup : ∀ w, fields = [(name, w)] → Entries.get? ws (.text name) = some w)
    (hkept : EntriesKept Kept es ws) (hps : (Key.text name, Value.map ps) ∈ es) :
    IsPlainPart relational ps := by
  rw [valueOf_of_mem hd hps] at hsent
  cases htruthy : (Value.map ps).truthy with
  | false =>
      -- A part that does not count is not sent, but it has no entries to keep either.
      have hnil : ps = [] := by simpa [Value.truthy] using htruthy
      rw [hnil]
      exact isPlainPart_nil
  | true =>
      obtain ⟨ps', qs, heq, hfields, hiff⟩ := hsent.exists_of_truthy htruthy fun ps' heq => by
        cases heq
        exact hparts _ _ hps
      cases heq
      obtain ⟨w, hw, hkept⟩ := hkept _ _ hps htruthy
      rw [hlookup _ hfields] at hw
      cases hw
      cases hkept with
      | part _ h => exact hiff.1 h
      | other hne =>
          rcases hname with rfl | rfl
          · exact absurd rfl hne.1
          · exact absurd rfl hne.2

/-- A plain part that counts is kept. -/
theorem exists_kept_part {v : Value} (hd : Entries.Distinct es) (hparts : HasDistinctParts es)
    (hname : name = "entity" ∨ name = "subject")
    (hsent : SentPart name relational (valueOf es name) fields)
    (hlookup : ∀ w, fields = [(name, w)] → Entries.get? ws (.text name) = some w)
    (hplain : ∀ ps, (Key.text name, Value.map ps) ∈ es → IsPlainPart relational ps)
    (hv : (Key.text name, v) ∈ es) (htruthy : v.truthy = true) :
    ∃ w, Entries.get? ws (.text name) = some w ∧ Kept (.text name) v w := by
  rw [valueOf_of_mem hd hv] at hsent
  obtain ⟨ps, qs, rfl, hfields, hiff⟩ := hsent.exists_of_truthy htruthy fun ps heq => by
    cases heq
    exact hparts _ _ hv
  refine ⟨_, hlookup _ hfields, .part ?_ (hiff.2 (hplain ps hv))⟩
  rcases hname with rfl | rfl
  · exact Or.inl rfl
  · exact Or.inr rfl

variable {entity subject : List (String × Value)}

/-- What is found in the wire form of a filter: each part that is there. -/
structure Lookups (es : Entries Value) (entity subject : List (String × Value))
    (ws : Entries Value) : Prop where
  entity : ∀ w, entity = [("entity", w)] → Entries.get? ws (.text "entity") = some w
  relation : (valueOf es "relation").truthy = true →
    Entries.get? ws (.text "relation") = some (valueOf es "relation")
  subject : ∀ w, subject = [("subject", w)] → Entries.get? ws (.text "subject") = some w

theorem lookups_of_sent (hentity : SentPart "entity" false (valueOf es "entity") entity) :
    Lookups es entity subject
      (Entries.named (entity ++ wireRelation (valueOf es "relation") ++ subject)) where
  entity := by
    rintro w rfl
    exact Entries.get?_named_cons ("entity", w) _
  relation := by
    intro htruthy
    rw [wireRelation_of_truthy htruthy, List.append_assoc, Entries.get?_named_append]
    · exact Entries.get?_named_cons ("relation", valueOf es "relation") _
    · intro f hf
      rw [hentity.name_eq hf]
      decide
  subject := by
    rintro w rfl
    rw [Entries.get?_named_append]
    · exact Entries.get?_named_cons ("subject", w) _
    · intro f hf
      rcases List.mem_append.1 hf with hf | hf
      · rw [hentity.name_eq hf]
        decide
      · rw [eq_relation_of_mem_wireRelation hf]
        decide

theorem mem_names_of_sent (hentity : SentPart "entity" false (valueOf es "entity") entity)
    (hsubject : SentPart "subject" true (valueOf es "subject") subject) {f : String × Value}
    (hf : f ∈ entity ++ wireRelation (valueOf es "relation") ++ subject) : f.1 ∈ names := by
  rcases List.mem_append.1 hf with hf | hf
  · rcases List.mem_append.1 hf with hf | hf
    · rw [hentity.name_eq hf]
      decide
    · rw [eq_relation_of_mem_wireRelation hf]
      decide
  · rw [hsubject.name_eq hf]
    decide

/-- **A filter is kept exactly if it is plain.** -/
theorem keeps_iff {sent : Value} (hd : Entries.Distinct es) (hparts : HasDistinctParts es)
    (h : Sends es sent) : Keeps es sent ↔ IsPlain es := by
  cases h with
  | @parts entity subject hentity hsubject =>
  have hlookups : Lookups es entity subject _ := lookups_of_sent hentity
  constructor
  · -- Only known keys are sent, so an entry under another key would not be kept.
    rintro ⟨ws, hws, hkept⟩
    cases hws
    refine ⟨onlyNames_of_entriesKept (fun f => mem_names_of_sent hentity hsubject) hkept,
      fun ps hps => ?_, fun ps hps => ?_⟩
    · exact isPlainPart_of_kept hd hparts (Or.inl rfl) hentity hlookups.entity hkept hps
    · exact isPlainPart_of_kept hd hparts (Or.inr rfl) hsubject hlookups.subject hkept hps
  · intro hplain
    refine ⟨_, rfl, fun k v hv htruthy => ?_⟩
    obtain ⟨n, hn, rfl⟩ := hplain.names k v hv htruthy
    rcases List.mem_cons.1 hn with rfl | hn
    · exact exists_kept_part hd hparts (Or.inl rfl) hentity hlookups.entity hplain.entity hv htruthy
    · rcases List.mem_cons.1 hn with rfl | hn
      · have hvalue := valueOf_of_mem hd hv
        refine ⟨v, ?_, .other (by simp)⟩
        rw [← hvalue]
        exact hlookups.relation (by rw [hvalue, htruthy])
      · cases List.mem_singleton.1 hn
        exact exists_kept_part hd hparts (Or.inr rfl) hsubject hlookups.subject hplain.subject hv
          htruthy

/-- The filter without parts is sent exactly if no part counts. -/
theorem sends_nothing_iff {sent : Value} (h : Sends es sent) :
    sent = .map [] ↔ ∀ n ∈ names, (valueOf es n).truthy = false := by
  cases h with
  | @parts entity subject hentity hsubject =>
  have hrelation : wireRelation (valueOf es "relation") = [] ↔
      (valueOf es "relation").truthy = false := by
    rw [wireRelation]
    split
    · simp_all
    · simp_all
  simp only [Value.record, Value.map.injEq, List.map_eq_nil_iff, List.append_eq_nil_iff,
    hentity.eq_nil_iff, hsubject.eq_nil_iff, hrelation, names, List.forall_mem_cons]
  simp [and_assoc]

end Whole

end Filter

/-! ## The requests of a deletion -/

namespace Http

/-- The filter in the body of a request, if there is one. -/
def Request.tupleFilter? (r : Request) : Option Json := r.body.bind (·.field? "tuple_filter")

variable {α : Type} {conn : Connection} {call : Call α} {r : Request}

theorem tupleFilter?_of_tenantDeletion {tenant : Value}
    (h : request conn (.deleteTenant tenant) = .ok r) : r.tupleFilter? = none := by
  rw [Request.tupleFilter?, body_of_tenantDeletion h]
  rfl

/-- A deletion of relationships has its filter in the body of its request. -/
theorem tupleFilter?_of_deletion {tenant filter : Value}
    (h : request conn (.deleteRelationships tenant filter) = .ok r) :
    ∃ j, r.tupleFilter? = some j ∧ filter.toJson = .ok j := by
  obtain ⟨vs, hb, _ | ⟨hfilter, _ | ⟨-, ⟨⟩⟩⟩⟩ := exists_body_of_request h rfl
  refine ⟨_, ?_, hfilter⟩
  rw [Request.tupleFilter?, hb]
  rfl

end Http

open Http

/-- The only filter that a deletion of relationships sends is the one that has been made. -/
theorem tupleFilter?_of_mem_requests {t : HttpTarget} {answers : List Answer} {filter sent : Value}
    {r : Request} {j : Json}
    (hcall : (WriteKind.deletion filter).call = .ok fun tenant => .deleteRelationships tenant sent)
    (hr : r ∈ ((WriteKind.deletion filter).run t.toTarget answers).requests)
    (hj : r.tupleFilter? = some j) : sent.toJson = .ok j := by
  obtain ⟨c, call, hc, hmade, hcases⟩ := WriteKind.cases_of_mem_requests hr
  cases hmade.symm.trans hcall
  cases t.isClient c hc
  -- Creations, pages and deletions of tenants have no filter; one request is left.
  rcases hcases with hcreation | ⟨token, hpage⟩ | hcalled | hdeletion
  · have hnone : r.tupleFilter? = none := field?_of_request hcreation rfl (by simp)
    cases hnone.symm.trans hj
  · have hnone : r.tupleFilter? = none := field?_of_request hpage rfl (by simp)
    cases hnone.symm.trans hj
  · obtain ⟨i, hi, hfilter⟩ := tupleFilter?_of_deletion hcalled
    rw [hi] at hj
    cases hj
    exact hfilter
  · rw [tupleFilter?_of_tenantDeletion hdeletion] at hj
    cases hj

/-- **What a deletion keeps of its filter.** A filter given as data is rejected before anything is
sent, or the deletion sends one filter only, in the body of its request. It keeps every entry that
counts exactly if the filter is plain, and it selects every relationship exactly if no entry under a
known key counts. -/
theorem deletion_filter_kept_iff (t : HttpTarget) (d : Dict Value)
    (hparts : Filter.HasDistinctParts d.entries) (answers : List Answer) :
    (∃ p, Runs ((WriteKind.deletion (.map d.entries)).run t.toTarget) answers []
      (.failed (.parameter p)) answers) ∨
    ∃ sent,
      (WriteKind.deletion (.map d.entries)).call =
        .ok (fun tenant => .deleteRelationships tenant sent) ∧
      (∀ r ∈ ((WriteKind.deletion (.map d.entries)).run t.toTarget answers).requests,
        ∀ j, r.tupleFilter? = some j → sent.toJson = .ok j) ∧
      (Filter.Keeps d.entries sent ↔ Filter.IsPlain d.entries) ∧
      (sent = .map [] ↔
        ∀ n ∈ Filter.names, (Filter.valueOf d.entries n).truthy = false) := by
  cases hcheck : t.check with
  | error p =>
      refine Or.inl ⟨p, ?_⟩
      rw [WriteKind.run_of_check_error hcheck]
      exact Runs.fail _ _
  | ok u =>
      rcases Filter.sends_or_invalid d.entries with ⟨cause, hrequired⟩ | ⟨sent, hrequired, hsends⟩
      · refine Or.inl ⟨.invalidFilter (.map d.entries) cause, ?_⟩
        rw [WriteKind.run_of_call_error hcheck (by rw [WriteKind.call, hrequired]; rfl)]
        exact Runs.fail _ _
      · have hcall : (WriteKind.deletion (.map d.entries)).call =
            .ok fun tenant => .deleteRelationships tenant sent := by
          rw [WriteKind.call, hrequired]
          rfl
        refine Or.inr ⟨sent, hcall, ?_, Filter.keeps_iff d.distinct hparts hsends,
          Filter.sends_nothing_iff hsends⟩
        intro r hr j hj
        exact tupleFilter?_of_mem_requests hcall hr hj

/-- A filter that restricts the entity and the relation. -/
def viewersOfOne : Dict Value := .ofEntries
  [(.text "entity", .record [("type", .text "document"), ("ids", .list [.text "doc-1"])]),
    (.text "relation", .text "viewer")]

/-- The answers to a creation and to one call. -/
def acceptingAnswers : List Answer := [.response 200 [], .response 200 []]

theorem viewersOfOne_entries : viewersOfOne.entries =
    [(.text "entity", .record [("type", .text "document"), ("ids", .list [.text "doc-1"])]),
      (.text "relation", .text "viewer")] :=
  Dict.entries_ofEntries (by simp [Entries.Distinct])

theorem viewersOfOne_isPlain : Filter.IsPlain viewersOfOne.entries := by
  rw [viewersOfOne_entries]
  refine ⟨fun k v hv _ => ?_, fun ps hps => ?_, fun ps hps => ?_⟩
  · rcases List.mem_cons.1 hv with h | hv
    · cases h
      exact ⟨"entity", by decide, rfl⟩
    · cases List.mem_singleton.1 hv
      exact ⟨"relation", by decide, rfl⟩
  · obtain rfl : ps = [(.text "type", .text "document"), (.text "ids", .list [.text "doc-1"])] := by
      simpa [Value.record] using hps
    refine ⟨fun k v hv _ => ?_, fun v hv _ => ?_⟩
    · rcases List.mem_cons.1 hv with h | hv
      · cases h
        exact ⟨"type", by decide, rfl⟩
      · cases List.mem_singleton.1 hv
        exact ⟨"ids", by decide, rfl⟩
    · obtain rfl : v = .list [.text "doc-1"] := by simpa using hv
      exact ⟨_, rfl⟩
  · simp at hps

/-- A filter that restricts the entity and the relation is sent as it is. -/
theorem viewersOfOne_kept :
    Filter.HasDistinctParts viewersOfOne.entries ∧
      ((WriteKind.deletion (.map viewersOfOne.entries)).run createdHttpTarget.toTarget
        acceptingAnswers).requests.length = 2 ∧
      ∃ sent, (WriteKind.deletion (.map viewersOfOne.entries)).call =
          .ok (fun tenant => .deleteRelationships tenant sent) ∧
        Filter.Keeps viewersOfOne.entries sent := by
  have hparts : Filter.HasDistinctParts viewersOfOne.entries := by
    intro k ps hps
    obtain ⟨-, rfl⟩ : k = .text "entity" ∧
        ps = [(.text "type", .text "document"), (.text "ids", .list [.text "doc-1"])] := by
      simpa [viewersOfOne_entries, Value.record] using hps
    simp [Entries.Distinct]
  have hlength : ((WriteKind.deletion (.map viewersOfOne.entries)).run createdHttpTarget.toTarget
      acceptingAnswers).requests.length = 2 := by rfl
  refine ⟨hparts, hlength, ?_⟩
  rcases deletion_filter_kept_iff createdHttpTarget viewersOfOne hparts acceptingAnswers with
    ⟨p, hrejected⟩ | ⟨sent, hcall, -, hkept, -⟩
  · rw [hrejected.requests_eq] at hlength
    cases hlength
  · exact ⟨sent, hcall, hkept.2 viewersOfOne_isPlain⟩

/-- A filter whose subject is misspelt. -/
def misspeltSubject : Dict Value := .ofEntries
  [(.text "subjects", .record [("type", .text "user"), ("ids", .list [.text "alice"])])]

/-- **A constraint under an unknown key is lost.** The deletion that was to remove the relationships
of one subject removes every relationship of the tenant. -/
theorem misspelt_subject_not_kept :
    ((WriteKind.deletion (.map misspeltSubject.entries)).run createdTarget
        acceptingAnswers).ending = .returned () ∧
      (∃ r ∈ ((WriteKind.deletion (.map misspeltSubject.entries)).run createdTarget
        acceptingAnswers).requests, r.tupleFilter? = some (.object [])) ∧
      (∃ e ∈ misspeltSubject.entries, e.2.truthy = true) ∧
      ¬ Filter.Keeps misspeltSubject.entries (.map []) := by
  refine ⟨by rfl, ⟨_, List.mem_cons_of_mem _ List.mem_cons_self, by rfl⟩,
    ⟨_, List.mem_cons_self, by rfl⟩, ?_⟩
  rintro ⟨ws, hws, hkept⟩
  cases hws
  obtain ⟨w, hw, -⟩ := hkept _ _ List.mem_cons_self (by rfl)
  cases hw

end Rebac
