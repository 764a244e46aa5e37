import Mathlib
import Rebac.Check
import Rebac.Proofs.AllOrNothing
import Rebac.Proofs.Mappings

set_option autoImplicit false

/-!
# When a check grants

What an answer to a check says is a relation between the answer and a result, which is stated on the
data of the answer alone: a name with or without the beginning of long names, a value that equals a
number, or decimal digits (`Json.Denotes`). A check sends one request, which asks the question of
the caller (`Http.IsCheck`), and nothing if that request cannot be made. It grants exactly if its
request was sent and the answer says that it is allowed, and it refuses exactly if the answer says
that nothing is specified or that it is denied. On any other answer it fails
(`Http.checkPermission_fails_closed`).
-/

namespace Rebac

/-! ## What data denotes -/

/-- Data denotes a result: by its name, by its name behind the beginning of long names, by decimal
digits of its number, of which only so many are read, or by a value that equals its number. -/
inductive Json.Denotes : Json → CheckResult → Prop
  | name (r : CheckResult) : Denotes (.text r.name) r
  | longName (r : CheckResult) : Denotes (.text ("CHECK_RESULT_" ++ r.name)) r
  | digits {s : String} {r : CheckResult} {n : Nat} (hne : s.toList ≠ [])
      (hlength : s.toList.length ≤ Numeral.maxDigits)
      (hn : Text.decimalNumber? s.toList = some n) (hr : (n : Int) = r.number) : Denotes (.text s) r
  | bool {b : Bool} {r : CheckResult} (hr : (b.toNat : Int) = r.number) : Denotes (.bool b) r
  | int (r : CheckResult) : Denotes (.int r.number) r
  | float {x : Binary64} {r : CheckResult} (hr : x.toInt? = some r.number) : Denotes (.float x) r

/-- Data says a result: it is an object whose field `can` denotes the result. Without that field it
says that nothing is specified. -/
inductive Json.Says (fields : List (String × Json)) : CheckResult → Prop
  | nothing (h : (Json.object fields).field? "can" = none) : Says fields .unspecified
  | denoted {v : Json} {r : CheckResult} (h : (Json.object fields).field? "can" = some v)
      (hv : v.Denotes r) : Says fields r

namespace Text

/-! ## Digits -/

theorem decimalNumber?_concat (s : List Char) (c : Char) :
    decimalNumber? (s ++ [c]) =
      (decimalNumber? s).bind fun n => (decimalValue? c).bind fun d => some (n * 10 + d) := by
  rw [decimalNumber?, List.foldl_append]
  rfl

/-- A number has decimal digits only. -/
theorem isDecimal_of_decimalNumber? {s : List Char} {n : Nat} (h : decimalNumber? s = some n) :
    ∀ c ∈ s, isDecimal c = true := by
  induction s using List.reverseRecOn generalizing n with
  | nil => simp
  | append_singleton s c ih =>
      rw [decimalNumber?_concat] at h
      obtain ⟨m, hm, h⟩ := Option.bind_eq_some_iff.1 h
      obtain ⟨d, hd, -⟩ := Option.bind_eq_some_iff.1 h
      refine List.forall_mem_append.2 ⟨ih hm, ?_⟩
      rw [List.forall_mem_singleton, isDecimal, hd]
      rfl

end Text

namespace CheckResult

theorem ofName?_eq_some_iff {s : String} {r : CheckResult} : ofName? s = some r ↔ s = r.name := by
  constructor
  · intro h
    have hname := List.find?_some h
    exact (eq_of_beq hname).symm
  · rintro rfl
    exact ofName?_name r

theorem ofNumber?_eq_some_iff {i : Int} {r : CheckResult} :
    ofNumber? i = some r ↔ i = r.number := by
  constructor
  · intro h
    have hnumber := List.find?_some h
    exact (eq_of_beq hnumber).symm
  · rintro rfl
    exact ofNumber?_number r

theorem toList_longName (r : CheckResult) :
    ("CHECK_RESULT_" ++ r.name).toList = nameStart ++ r.name.toList := by
  unfold nameStart
  exact String.toList_append

theorem shortName_eq_name_iff {s : String} {r : CheckResult} :
    shortName s = r.name ↔ s = r.name ∨ s = "CHECK_RESULT_" ++ r.name := by
  constructor
  · intro h
    unfold shortName at h
    split at h
    · next hstart =>
      have hsplit := List.prefix_iff_eq_append.1 (List.isPrefixOf_iff_prefix.1 hstart)
      have hrest : s.toList.drop nameStart.length = r.name.toList := by
        rw [← h, String.toList_ofList]
      rw [hrest] at hsplit
      exact Or.inr (String.toList_injective (hsplit.symm.trans (toList_longName r).symm))
    · exact Or.inl h
  · rintro (rfl | rfl)
    · -- No name begins as long names do.
      have hlong : nameStart.isPrefixOf r.name.toList = false := by cases r <;> rfl
      rw [shortName, hlong]
      rfl
    · have hlong : nameStart.isPrefixOf (nameStart ++ r.name.toList) = true :=
        List.isPrefixOf_iff_prefix.2 (List.prefix_append _ _)
      rw [shortName, toList_longName, if_pos hlong, List.drop_left, String.ofList_toList]

/-- A name is no number, since it holds a letter. -/
theorem decimalNumber?_of_name {s : String} {r : CheckResult} (h : shortName s = r.name) :
    Text.decimalNumber? s.toList = none := by
  have hletter : 'E' ∈ s.toList := by
    rcases shortName_eq_name_iff.1 h with rfl | rfl
    · cases r <;> decide
    · simp
  cases hn : Text.decimalNumber? s.toList with
  | none => rfl
  | some n =>
      have hdecimal : Text.isDecimal 'E' = false := by rfl
      rw [Text.isDecimal_of_decimalNumber? hn 'E' hletter] at hdecimal
      cases hdecimal

/-- What a text denotes that is no name. -/
theorem ofText_of_ofName?_eq_none {s : String} {r : CheckResult}
    (h : ofName? (shortName s) = none) :
    ofText s = .ok r ↔ s.toList ≠ [] ∧ s.toList.length ≤ Numeral.maxDigits ∧
      ∃ n : Nat, Text.decimalNumber? s.toList = some n ∧ (n : Int) = r.number := by
  have hcount : ∀ n, Text.decimalNumber? s.toList = some n →
      s.toList.takeWhile Text.isDecimal = s.toList := by
    intro n hn
    have hall : (s.toList ++ []).takeWhile Text.isDecimal =
        s.toList ++ [].takeWhile Text.isDecimal :=
      List.takeWhile_append_of_pos (Text.isDecimal_of_decimalNumber? hn)
    rwa [List.append_nil, List.takeWhile_nil, List.append_nil] at hall
  unfold ofText
  rw [h]
  dsimp only
  constructor
  · intro h
    split at h
    · next hdigits =>
      split at h
      · cases h
      · next hlength =>
        split at h
        · cases h
        · next n hn =>
          rw [hcount n hn] at hlength
          split at h
          · next r' hr =>
            cases h
            refine ⟨?_, Nat.not_lt.1 hlength, n, hn, ofNumber?_eq_some_iff.1 hr⟩
            rintro hempty
            simp [hempty] at hdigits
          · cases h
    · cases h
  · rintro ⟨hne, hlength, n, hn, hr⟩
    have hdigits : (!s.toList.isEmpty && s.toList.all Text.isDigitLike) = true := by
      have hall : ∀ c ∈ s.toList, Text.isDigitLike c = true := fun c hc => by
        rw [Text.isDigitLike, Text.isDecimal_of_decimalNumber? hn c hc, Bool.true_or]
      simpa [hne] using hall
    rw [if_pos hdigits, hcount n hn, if_neg (Nat.not_lt.2 hlength), hn]
    dsimp only
    rw [ofNumber?_eq_some_iff.2 hr]
    rfl

/-- The names of a result denote it. -/
theorem denotes_of_shortName {s : String} {r : CheckResult} (h : shortName s = r.name) :
    (Json.text s).Denotes r := by
  rcases shortName_eq_name_iff.1 h with rfl | rfl
  · exact .name r
  · exact .longName r

/-- What a text denotes is its name, or the number that it is. -/
theorem shortName_or_number_of_denotes {s : String} {r : CheckResult}
    (h : (Json.text s).Denotes r) :
    shortName s = r.name ∨ (s.toList ≠ [] ∧ s.toList.length ≤ Numeral.maxDigits ∧
      ∃ n : Nat, Text.decimalNumber? s.toList = some n ∧ (n : Int) = r.number) := by
  cases h with
  | name => exact Or.inl (shortName_eq_name_iff.2 (Or.inl rfl))
  | longName => exact Or.inl (shortName_eq_name_iff.2 (Or.inr rfl))
  | digits hne hlength hn hr => exact Or.inr ⟨hne, hlength, _, hn, hr⟩

/-- **What texts denote.** -/
theorem ofText_eq_ok_iff {s : String} {r : CheckResult} :
    ofText s = .ok r ↔ (Json.text s).Denotes r := by
  cases hname : ofName? (shortName s) with
  | some r' =>
      have hshort := ofName?_eq_some_iff.1 hname
      have hread : ofText s = .ok r' := by
        rw [ofText, hname]
        rfl
      rw [hread]
      constructor
      · intro h
        cases h
        exact denotes_of_shortName hshort
      · intro h
        -- Names are unique, and a name is no number at the same time.
        rcases shortName_or_number_of_denotes h with heq | ⟨-, -, n, hn, -⟩
        · rw [ofName?_eq_some_iff.2 heq] at hname
          cases hname
          rfl
        · rw [decimalNumber?_of_name hshort] at hn
          cases hn
  | none =>
      rw [ofText_of_ofName?_eq_none hname]
      constructor
      · rintro ⟨hne, hlength, n, hn, hr⟩
        exact .digits hne hlength hn hr
      · intro h
        rcases shortName_or_number_of_denotes h with heq | hnumber
        · rw [ofName?_eq_some_iff.2 heq] at hname
          cases hname
        · exact hnumber

/-- What is no text denotes the result of the number that it equals. -/
theorem parse_of_integer {v : Value} {r : CheckResult} (htext : ∀ s, v ≠ .text s)
    (hresult : ∀ r, v ≠ .checkResult r) : parse v = .ok r ↔ v.integer? = some r.number := by
  unfold parse
  split
  · next r' => exact absurd rfl (hresult r')
  · next s => exact absurd rfl (htext s)
  cases hi : v.integer? with
  | none =>
      simp [throw, throwThe, MonadExceptOf.throw]
  | some i =>
      rw [Option.bind_some, Option.some_inj, ← ofNumber?_eq_some_iff]
      cases hr : ofNumber? i with
      | none => simp [throw, throwThe, MonadExceptOf.throw]
      | some r' => simp [pure, Except.pure]

/-- **What data denotes is what is read.** -/
theorem parse_ofJson_eq_ok_iff {j : Json} {r : CheckResult} :
    parse (.ofJson j) = .ok r ↔ j.Denotes r := by
  cases j with
  | text s => exact ofText_eq_ok_iff
  -- Nothing, lists and objects equal no number.
  | null =>
      rw [Value.ofJson, parse_of_integer (v := .none) nofun nofun]
      exact iff_of_false nofun nofun
  | array items =>
      rw [Value.ofJson, parse_of_integer (v := .list (Value.ofJsonItems items)) nofun nofun]
      exact iff_of_false nofun nofun
  | object fields =>
      rw [Value.ofJson, parse_of_integer (v := .map (Value.ofJsonFields fields)) nofun nofun]
      exact iff_of_false nofun nofun
  | bool b =>
      rw [Value.ofJson, parse_of_integer (v := .bool b) nofun nofun]
      have hnumber : (Value.bool b).integer? = some (b.toNat : Int) := by cases b <;> rfl
      rw [hnumber, Option.some_inj]
      constructor
      · exact .bool
      · rintro ⟨⟩
        assumption
  | int i =>
      rw [Value.ofJson, parse_of_integer (v := .int i) nofun nofun]
      constructor
      · intro h
        cases h
        exact .int r
      · rintro ⟨⟩
        rfl
  | float x =>
      rw [Value.ofJson, parse_of_integer (v := .float x) nofun nofun]
      constructor
      · exact .float
      · rintro ⟨⟩
        assumption

-- A digit of another script is a digit, and a superscript is none that has a number.
example : parse (.ofJson (.text "\u0661")) = .ok .allowed := by rfl
example : parse (.ofJson (.text "\u00b9")) = .error (.noNumber "\u00b9") := by rfl

/-! ## What an answer says -/

/-- The fields of an object are found under their names. -/
theorem get?_ofJsonFields (fields : List (String × Json)) (name : String) :
    Entries.get? (Value.ofJsonFields fields) (.text name) =
      ((Json.object fields).field? name).map Value.ofJson := by
  induction fields with
  | nil => rfl
  | cons f rest ih =>
      rw [Value.ofJsonFields, Entries.get?, Json.field?]
      by_cases h : f.1 = name
      · simp [h]
      · rw [List.find?_cons_of_neg (by simpa using h), List.find?_cons_of_neg (by simpa using h)]
        exact ih

theorem ofAnswer_eq_ok_iff {data : Value} {r : CheckResult} : ofAnswer data = .ok r ↔
    ∃ can, data.find "can" (.checkResult .unspecified) = .ok can ∧ parse can = .ok r := by
  constructor
  · intro h
    obtain ⟨can, hcan, h⟩ := exists_of_bind_eq_ok h
    exact ⟨can, mapError_eq_ok_iff.1 hcan, mapError_eq_ok_iff.1 h⟩
  · rintro ⟨can, hcan, h⟩
    rw [ofAnswer, hcan]
    exact mapError_eq_ok_iff.2 h

/-- What is read in an object is what the object says. -/
theorem ofAnswer_object_eq_ok_iff {fields : List (String × Json)} {r : CheckResult} :
    ofAnswer (.ofJson (.object fields)) = .ok r ↔ Json.Says fields r := by
  have hfind : (Value.ofJson (.object fields)).find "can" (.checkResult .unspecified) =
      .ok ((((Json.object fields).field? "can").map Value.ofJson).getD
        (.checkResult .unspecified)) := by
    rw [Value.ofJson, Value.find, get?_ofJsonFields]
    rfl
  rw [ofAnswer_eq_ok_iff, hfind]
  cases hcan : (Json.object fields).field? "can" with
  | none =>
      constructor
      · rintro ⟨can, h, hr⟩
        cases h
        cases hr
        exact .nothing hcan
      · rintro (hnone | ⟨hsome, -⟩)
        · exact ⟨_, rfl, rfl⟩
        · rw [hcan] at hsome
          cases hsome
  | some v =>
      constructor
      · rintro ⟨can, h, hr⟩
        cases h
        exact .denoted hcan (parse_ofJson_eq_ok_iff.1 hr)
      · rintro (hnone | ⟨hsome, hv⟩)
        · rw [hcan] at hnone
          cases hnone
        · rw [hcan] at hsome
          cases hsome
          exact ⟨_, rfl, parse_ofJson_eq_ok_iff.2 hv⟩

/-- Data that is no object says nothing that could be read. -/
theorem exists_fields_of_ofAnswer {j : Json} {r : CheckResult} (h : ofAnswer (.ofJson j) = .ok r) :
    ∃ fields, j = .object fields := by
  obtain ⟨can, hcan, -⟩ := ofAnswer_eq_ok_iff.1 h
  cases j with
  | object fields => exact ⟨fields, rfl⟩
  | _ =>
      rw [Value.ofJson] at hcan
      cases hcan

end CheckResult

namespace Http

/-- An answer says a result: it is one of success, and its body is an object that says the result.
An empty body says that nothing is specified. -/
inductive Answer.Says : Answer → CheckResult → Prop
  | empty {status : Nat} (hstatus : isSuccess status = true) :
      Says (.response status []) .unspecified
  | object {status : Nat} {bytes : List UInt8} {document : List Char}
      {fields : List (String × Json)} {r : CheckResult} (hstatus : isSuccess status = true)
      (hne : bytes ≠ []) (hdocument : Json.decodeBytes bytes = .ok document)
      (hread : Json.read document = .ok (.object fields)) (hr : Json.Says fields r) :
      Says (.response status bytes) r

theorem readBody_eq_ok_iff {bytes : List UInt8} {v : Value} : readBody bytes = .ok v ↔
    ∃ document j, Json.decodeBytes bytes = .ok document ∧ Json.read document = .ok j ∧
      .ofJson j = v := by
  unfold readBody
  cases hdocument : Json.decodeBytes bytes with
  | error f => exact iff_of_false nofun nofun
  | ok document =>
      dsimp only
      cases hread : Json.read document with
      | error f =>
          refine iff_of_false nofun ?_
          rintro ⟨d, j, hd, hj, -⟩
          cases hd
          rw [hread] at hj
          cases hj
      | ok j =>
          constructor
          · intro h
            cases h
            exact ⟨document, j, rfl, hread, rfl⟩
          · rintro ⟨d, k, hd, hk, rfl⟩
            cases hd
            rw [hread] at hk
            cases hk
            rfl

/-- The data of an answer of success is that of its body. -/
theorem reply_check_of_success (conn : Connection) (tenant body : Value) {status : Nat}
    (h : isSuccess status = true) (bytes : List UInt8) :
    (reply conn (.checkPermission tenant body) (.response status bytes)).2 = readResult bytes := by
  rw [reply_of_success h]
  cases readResult bytes with
  | error f => rfl
  | ok v => rfl

/-- **What an answer says is what is read in it.** -/
theorem read_eq_ok_iff_says {conn : Connection} {tenant body : Value} {a : Answer}
    {r : CheckResult} :
    (reply conn (.checkPermission tenant body) a).2 >>= CheckResult.ofAnswer = .ok r ↔
      a.Says r := by
  constructor
  · intro h
    obtain ⟨data, hdata, hr⟩ := exists_of_bind_eq_ok h
    have haccepts := accepts_of_reply_ok hdata
    cases a with
    | unreachable m => exact haccepts.elim
    | raised f => exact haccepts.elim
    | response status bytes =>
        have hstatus : isSuccess status = true := haccepts
        rw [reply_check_of_success conn tenant body hstatus, readResult] at hdata
        split at hdata
        · next hempty =>
          rw [List.isEmpty_iff.1 hempty]
          cases hdata
          cases hr
          exact .empty hstatus
        · next hempty =>
          obtain ⟨document, j, hdocument, hread, rfl⟩ := readBody_eq_ok_iff.1 hdata
          obtain ⟨fields, rfl⟩ := CheckResult.exists_fields_of_ofAnswer hr
          exact .object hstatus (by simpa using hempty) hdocument hread
            (CheckResult.ofAnswer_object_eq_ok_iff.1 hr)
  · intro h
    cases h with
    | empty hstatus =>
        rw [reply_check_of_success conn tenant body hstatus]
        rfl
    | object hstatus hne hdocument hread hr =>
        rw [reply_check_of_success conn tenant body hstatus, readResult,
          if_neg (by simpa using hne), readBody_eq_ok_iff.2 ⟨_, _, hdocument, hread, rfl⟩]
        exact CheckResult.ofAnswer_object_eq_ok_iff.2 hr

end Http

/-! ## What a check asks -/

/-- A request in wire form asks a question: about the same entity, permission and subject, with the
metadata and the context of the caller. -/
structure CheckRequest.Asks (w : CheckRequest) (q : PermissionQuery) : Prop where
  permission : w.permission = q.permission
  /-- A reference to an entity is sent as its type and its identifier. -/
  entity_reference : ∀ type id, q.entity = .entityRef type id →
    w.entity = .record [("type", type), ("id", id)]
  /-- An entity that is given as data is sent as it is. -/
  entity_data : ∀ es, q.entity.toEntries = .ok es → w.entity = .map es
  /-- A reference to a subject is sent with its relation, if it counts. -/
  subject_reference : ∀ type id relation, q.subject = .subjectRef type id relation →
    w.subject = .record ([("type", type), ("id", id)] ++
      if relation.truthy then [("relation", relation)] else [])
  /-- A subject that is given as data is sent as it is. -/
  subject_data : ∀ es, q.subject.toEntries = .ok es → w.subject = .map es
  /-- Without metadata, only the depth is sent. -/
  no_metadata : q.metadata.truthy = false → w.metadata = .record [("depth", defaultCheckDepth)]
  /-- Metadata is sent as it is, and the depth that it leaves out is the default. -/
  metadata : ∀ es, q.metadata = .map es → Entries.Distinct es → ∃ sent, w.metadata = .map sent ∧
    ∀ s, Entries.get? sent (.text s) =
      (Entries.get? es (.text s)).or (if s = "depth" then some defaultCheckDepth else none)
  no_context : q.context.truthy = false → w.context = none
  context : ∀ es, q.context.truthy = true → q.context.toEntries = .ok es →
    w.context = some (.map es)

namespace PermissionQuery

variable {q : PermissionQuery} {w : CheckRequest} {v sent : Value} {es : Entries Value}

theorem mapping_of_toEntries (h : v.toEntries = .ok es) : mapping v = .ok (.map es) := by
  rw [mapping, h]
  rfl

theorem entityOf_of_toEntries (h : v.toEntries = .ok es) : entityOf v = .ok (.map es) := by
  cases v with
  | entityRef type id => cases h
  | _ => exact mapping_of_toEntries h

theorem subjectOf_of_toEntries (h : v.toEntries = .ok es) : subjectOf v = .ok (.map es) := by
  cases v with
  | subjectRef type id relation => cases h
  | _ => exact mapping_of_toEntries h

theorem metadataOf_of_not_truthy (h : v.truthy = false) :
    metadataOf v = .ok (.record [("depth", defaultCheckDepth)]) := by
  have hnot : ¬ v.truthy = true := Bool.eq_false_iff.1 h
  rw [metadataOf, Value.orElse, if_neg hnot]
  rfl

/-- The metadata that is sent has what the caller gives, and the depth. -/
theorem exists_metadataOf_map (hd : Entries.Distinct es) :
    ∃ sent, metadataOf (.map es) = .ok (.map sent) ∧ ∀ s, Entries.get? sent (.text s) =
      (Entries.get? es (.text s)).or (if s = "depth" then some defaultCheckDepth else none) := by
  have horElse : (Value.map es).orElse (.map []) = .map es := by
    cases es with
    | nil => rfl
    | cons e rest => rfl
  refine ⟨_, by rw [metadataOf, horElse]; rfl, fun s => ?_⟩
  rw [Entries.get?_text_foldl_put hd]
  by_cases hs : s = "depth"
  · subst hs
    simp [Entries.get?]
  · simp [Entries.get?, hs, Ne.symm hs]

/-- **The wire form of a question asks it.** -/
theorem asks_of_toRequest (h : q.toRequest = .ok w) : w.Asks q := by
  obtain ⟨metadata, hmetadata, h⟩ := exists_of_bind_eq_ok h
  obtain ⟨entity, hentity, h⟩ := exists_of_bind_eq_ok h
  obtain ⟨subject, hsubject, h⟩ := exists_of_bind_eq_ok h
  obtain ⟨context, hcontext, rfl⟩ : ∃ context,
      (if q.context.truthy then some <$> mapping q.context else pure none) = .ok context ∧
        w = ⟨metadata, entity, q.permission, subject, context⟩ := by
    dsimp only at h
    split at h
    · rename_i htruthy
      obtain ⟨context, hcontext, h⟩ := exists_of_bind_eq_ok h
      cases h
      rw [if_pos htruthy]
      exact ⟨context, hcontext, rfl⟩
    · rename_i hnot
      cases h
      rw [if_neg hnot]
      exact ⟨none, rfl, rfl⟩
  constructor
  case permission => rfl
  case entity_reference =>
    intro type id hq
    rw [hq] at hentity
    cases hentity
    rfl
  case entity_data =>
    intro es hes
    cases (entityOf_of_toEntries hes).symm.trans hentity
    rfl
  case subject_reference =>
    intro type id relation hq
    rw [hq] at hsubject
    cases hsubject
    rfl
  case subject_data =>
    intro es hes
    cases (subjectOf_of_toEntries hes).symm.trans hsubject
    rfl
  case no_metadata =>
    intro hnot
    rw [metadataOf_of_not_truthy hnot] at hmetadata
    cases hmetadata
    rfl
  case metadata =>
    intro es hes hd
    obtain ⟨sent, hsent, hfound⟩ := exists_metadataOf_map hd
    rw [hes, hsent] at hmetadata
    cases hmetadata
    exact ⟨sent, rfl, hfound⟩
  case no_context =>
    intro hnot
    rw [hnot] at hcontext
    cases hcontext
    rfl
  case context =>
    intro es htruthy hes
    rw [htruthy, mapping_of_toEntries hes] at hcontext
    cases hcontext
    rfl

end PermissionQuery

namespace Http

/-! ## Checks -/

/-- A request is the one that a check sends: there is a tenant and a permission, and the request
asks the question of the caller about that tenant. -/
def IsCheck (conn : Connection) (tenant : Value) (q : PermissionQuery) (r : Request) : Prop :=
  tenant.truthy = true ∧ q.permission.truthy = true ∧
    ∃ w, q.toRequest = .ok w ∧ w.Asks q ∧
      request conn (.checkPermission tenant w.toValue) = .ok r

theorem IsCheck.unique {conn : Connection} {tenant : Value} {q : PermissionQuery} {r s : Request}
    (hr : IsCheck conn tenant q r) (hs : IsCheck conn tenant q s) : r = s := by
  obtain ⟨-, -, w, hw, -, hr⟩ := hr
  obtain ⟨-, -, w', hw', -, hs⟩ := hs
  cases hw.symm.trans hw'
  exact Except.ok.inj (hr.symm.trans hs)

/-- A call whose request can be made ends with what its answer means. -/
theorem runs_ask_of_request {α : Type} {conn : Connection} {call : Call α} {r : Request}
    (h : request conn call = .ok r) (a : Answer) (rest : List Answer) :
    Runs ((client conn).ask call) (a :: rest) [r] (.ofExcept (reply conn call a).2) rest := by
  have hrun := Client.ask_cons (c := client conn) h a rest
  refine ⟨?_, by rw [hrun]; rfl, by rw [hrun]⟩
  rw [Client.requests_ask]
  exact Client.sent_of_ok h

/-- **How a check runs.** Either no request can be made, and the check fails, or its request is
sent, and it ends with what is read in the answer. -/
theorem checkPermission_runs (conn : Connection) (tenant : Value) (q : PermissionQuery) (a : Answer)
    (rest : List Answer) :
    ((¬ ∃ r, IsCheck conn tenant q r) ∧
      ∃ f, Runs ((client conn).checkPermission tenant q) (a :: rest) [] (.failed f) (a :: rest)) ∨
      ∃ body r, IsCheck conn tenant q r ∧
        Runs ((client conn).checkPermission tenant q) (a :: rest) [r]
          (.ofExcept (((reply conn (.checkPermission tenant body) a).2 >>=
            CheckResult.ofAnswer).map (· == .allowed))) rest := by
  rw [Client.checkPermission]
  -- Nothing is sent if the tenant or the permission is missing, or if no request can be made.
  cases htenant : tenant.truthy with
  | false =>
      refine Or.inl ⟨?_, _, .fail _ _⟩
      rintro ⟨r, hcheck⟩
      cases htenant.symm.trans hcheck.1
  | true =>
  cases hpermission : q.permission.truthy with
  | false =>
      refine Or.inl ⟨?_, _, .fail _ _⟩
      rintro ⟨r, hcheck⟩
      cases hpermission.symm.trans hcheck.2.1
  | true =>
  cases hrequest : q.toRequest with
  | error f =>
      refine Or.inl ⟨?_, f, .bind_failed ⟨rfl, rfl, rfl⟩⟩
      rintro ⟨r, -, -, w, hw, -⟩
      cases hrequest.symm.trans hw
  | ok w =>
      have hasks : Runs (Dialogue.ofExcept (.ok w) : Dialogue Request Answer CheckRequest)
          (a :: rest) [] (.returned w) (a :: rest) := .ofExcept_ok w _
      cases hr : request conn (.checkPermission tenant w.toValue) with
      | error f =>
          refine Or.inl ⟨?_, f, hasks.bind (.bind_failed ?_)⟩
          · rintro ⟨r, -, -, w', hw', -, hr'⟩
            cases hrequest.symm.trans hw'
            cases hr.symm.trans hr'
          · have hrun := Client.ask_of_error (c := client conn) hr (a :: rest)
            exact ⟨by rw [hrun]; rfl, by rw [hrun], by rw [hrun]⟩
      | ok r =>
          refine Or.inr ⟨w.toValue, r, ⟨htenant, hpermission, w, hrequest,
            PermissionQuery.asks_of_toRequest hrequest, hr⟩, ?_⟩
          have hsent := runs_ask_of_request hr a rest
          cases hreply : (reply conn (.checkPermission tenant w.toValue) a).2 with
          | error f =>
              rw [hreply] at hsent
              exact hasks.bind hsent.bind_failed
          | ok data =>
              rw [hreply] at hsent
              change Runs _ _ ([] ++ ([r] ++ [])) (.ofExcept ((CheckResult.ofAnswer data).map _)) _
              refine hasks.bind (hsent.bind ?_)
              cases hresult : CheckResult.ofAnswer data with
              | error f => exact .bind_failed ⟨rfl, rfl, rfl⟩
              | ok result =>
                  exact (Runs.ofExcept_ok result rest).bind
                    ((Runs.log _ _ _ rest).bind (.pure _ rest))

/-- **Checks fail closed.** A check sends the request that asks the question of the caller, or
nothing if there is none. It grants exactly if its request was sent and the answer says `allowed`,
it refuses exactly if its request was sent and the answer says `unspecified` or `denied`, and in
every other case it fails. -/
theorem checkPermission_fails_closed (conn : Connection) (tenant : Value) (q : PermissionQuery)
    (a : Answer) (rest : List Answer) :
    let run := (client conn).checkPermission tenant q (a :: rest)
    (run.ending = .returned true ↔ (∃ r, run.requests = [r]) ∧ a.Says .allowed) ∧
      (run.ending = .returned false ↔
        (∃ r, run.requests = [r]) ∧ (a.Says .unspecified ∨ a.Says .denied)) ∧
      ((∃ f, run.ending = .failed f) ↔
        ¬ ((∃ r, run.requests = [r]) ∧ ∃ result, a.Says result)) ∧
      (∀ r, run.requests = [r] ↔ IsCheck conn tenant q r) ∧
      (run.requests = [] ↔ ¬ ∃ r, IsCheck conn tenant q r) := by
  intro run
  rcases checkPermission_runs conn tenant q a rest with
    ⟨hnot, f, hrun⟩ | ⟨body, r, hcheck, hrun⟩
  · have hrequests : run.requests = [] := hrun.requests_eq
    have hnone : ∀ r, ¬ run.requests = [r] := by
      intro r hr
      cases hrequests.symm.trans hr
    have hsent : ¬ ∃ r, run.requests = [r] := fun ⟨r, hr⟩ => hnone r hr
    rw [hrun.ending_eq]
    exact ⟨iff_of_false nofun fun h => hsent h.1, iff_of_false nofun fun h => hsent h.1,
      iff_of_true ⟨f, rfl⟩ fun h => hsent h.1,
      fun r => iff_of_false (hnone r) fun h => hnot ⟨r, h⟩, iff_of_true hrequests hnot⟩
  · have hrequests : run.requests = [r] := hrun.requests_eq
    have hsent : ∃ r, run.requests = [r] := ⟨r, hrequests⟩
    have hsays : ∀ result, a.Says result ↔
        (reply conn (.checkPermission tenant body) a).2 >>= CheckResult.ofAnswer = .ok result :=
      fun result => read_eq_ok_iff_says.symm
    have hasked : ∀ s, run.requests = [s] ↔ IsCheck conn tenant q s := by
      intro s
      rw [hrequests]
      constructor
      · intro hs
        exact List.singleton_inj.1 hs ▸ hcheck
      · intro hs
        rw [hcheck.unique hs]
    have hnothing : run.requests = [] ↔ ¬ ∃ r, IsCheck conn tenant q r :=
      iff_of_false (by simp [hrequests]) fun h => h ⟨r, hcheck⟩
    refine ⟨?_, ?_, ?_, hasked, hnothing⟩
    -- The three endings differ only by what is read in the answer.
    all_goals
      rw [hrun.ending_eq]
      simp only [hsent, hsays, true_and]
      cases (reply conn (.checkPermission tenant body) a).2 >>= CheckResult.ofAnswer with
      | error f => simp [Except.map, Ending.ofExcept]
      | ok result => cases result <;> simp [Except.map, Ending.ofExcept]

/-- A question that could be asked. -/
def viewQuery : PermissionQuery where
  entity := .entityRef (.text "document") (.text "doc-1")
  permission := .text "view"
  subject := .record [("type", .text "user"), ("id", .text "alice")]

/-- The request that asks it. -/
def viewCheck : Request where
  method := .post
  url := "http://localhost:3476/v1/tenants/acme/permissions/check"
  headers := []
  timeout := none
  body := some (.object [("metadata", .object [("depth", .int 20)]),
    ("entity", .object [("type", .text "document"), ("id", .text "doc-1")]),
    ("permission", .text "view"),
    ("subject", .object [("type", .text "user"), ("id", .text "alice")])])

/-- An answer that says `allowed` by its number. -/
def allowedAnswer : Answer :=
  .response 200 (Text.Utf8.encode "\x7b\"can\": 1\x7d".toList)

/-- A check whose answer says `allowed` grants. -/
theorem viewQuery_granted :
    IsCheck localConnection (.text "acme") viewQuery viewCheck ∧ allowedAnswer.Says .allowed ∧
      ((client localConnection).checkPermission (.text "acme") viewQuery
        [allowedAnswer]).requests = [viewCheck] ∧
      ((client localConnection).checkPermission (.text "acme") viewQuery
        [allowedAnswer]).ending = .returned true := by
  have hform : viewQuery.toRequest = .ok ⟨.record [("depth", .int 20)],
      .record [("type", .text "document"), ("id", .text "doc-1")], .text "view",
      .record [("type", .text "user"), ("id", .text "alice")], none⟩ := rfl
  have hcheck : IsCheck localConnection (.text "acme") viewQuery viewCheck :=
    ⟨by decide, by decide, _, hform, PermissionQuery.asks_of_toRequest hform, by rfl⟩
  have hread : Json.read "\x7b\"can\": 1\x7d".toList = .ok (.object [("can", .int 1)]) := by cbv
  have hsays : allowedAnswer.Says .allowed :=
    .object rfl (List.cons_ne_nil _ _) (by cbv) hread (.denoted rfl (.int .allowed))
  obtain ⟨hgrants, -, -, hsent, -⟩ :=
    checkPermission_fails_closed localConnection (.text "acme") viewQuery allowedAnswer []
  have hrequests := (hsent viewCheck).2 hcheck
  exact ⟨hcheck, hsays, hrequests, hgrants.2 ⟨⟨viewCheck, hrequests⟩, hsays⟩⟩

end Http

end Rebac
