import Rebac.Check
import Rebac.Client.Call
import Rebac.Client.Http
import Rebac.Config
import Rebac.Json
import Rebac.Schema.Declaration
import Rebac.Told
import Rebac.Write.Operations
import Rebac.Proofs.Runs
import Rebac.Proofs.TenantResolution
import Rebac.Proofs.WriteCourse
import Rebac.Proofs.WriteKind
import Rebac.Proofs.WriteRequests
import Rebac.Proofs.HttpRequests
import Rebac.Proofs.WriteOutcome
import Rebac.Proofs.CreatedTenant
import Rebac.Proofs.RelationshipRecords
import Rebac.Proofs.Exchanges
import Rebac.Proofs.References
import Rebac.Proofs.Identifiers
import Rebac.Proofs.LookedUpTargets
import Rebac.Proofs.WriteLog
import Rebac.Proofs.HttpAnswers
import Rebac.Proofs.AllOrNothing
import Rebac.Proofs.Interleaving
import Rebac.Proofs.Survival
import Rebac.Proofs.ConcurrentWrites
import Rebac.Proofs.WireForms
import Rebac.Proofs.DeletionFilter
import Rebac.Proofs.ParameterFaults
import Rebac.Proofs.SchemaReading
import Rebac.Proofs.SchemaLines
import Rebac.Proofs.TenantPaths
import Rebac.Proofs.CheckAnswers
import Rebac.Proofs.ValidatedConfigs
import Rebac.Proofs.ValidatedLogging
import Rebac.Proofs.TokenSecrecy
import Rebac.Proofs.ExportedSchemas
import Rebac.Proofs.Spellings
import Rebac.Proofs.RequestLines
import Rebac.Proofs.TenantPages
import Rebac.Proofs.UnreadableBodies
import Rebac.Proofs.CreationAnswers
import Rebac.Proofs.RelationshipPayloads
import Rebac.Proofs.Seeding
import Rebac.Proofs.Replacement
import Rebac.Proofs.MalformedTasks
import Rebac.Proofs.ShownValues
import Rebac.Proofs.DataShapes
import Rebac.Proofs.SchemaHashes
import Rebac.Proofs.Rearrangements
import Rebac.Proofs.FirstFaults
import Rebac.Proofs.DocumentedFaults
import Rebac.Proofs.SchemaComposition
import Rebac.Proofs.SchemaFiles
import Rebac.Proofs.SchemaWrites
import Rebac.Proofs.PlaintextHosts
import Rebac.Proofs.EffectiveSettings
import Rebac.Proofs.PermissionKeys
import Rebac.Proofs.Rejections
import Rebac.Proofs.LogSetups
import Rebac.Proofs.OwnVariables
