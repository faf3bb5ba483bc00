import Perhaps.Catalog
import Perhaps.Logging.Session
import Perhaps.Proofs.Invocation
import Perhaps.Proofs.Everywhere
import Perhaps.Proofs.StageChain
import Perhaps.Proofs.Regularity
import Perhaps.Proofs.Mentions
import Perhaps.Proofs.OperandRegularity
import Perhaps.Proofs.ProgramRegularity
import Perhaps.Proofs.SessionRegularity
import Perhaps.Proofs.SoundSessions
import Perhaps.Proofs.RefusalLog
import Perhaps.Proofs.Amounts
import Perhaps.Proofs.EqualityLaws
import Perhaps.Proofs.HashContract
import Perhaps.Proofs.ChainLaws
import Perhaps.Proofs.ConfigurationHistory
import Perhaps.Proofs.RefusalLines
import Perhaps.Proofs.LevelNames
import Perhaps.Proofs.ConfiguredLevels
import Perhaps.Proofs.FileReferences
import Perhaps.Proofs.EventWriting
import Perhaps.Proofs.SettingsOutput
import Perhaps.Proofs.SettingsSources
import Perhaps.Proofs.MapFusion
import Perhaps.Proofs.FilterFusion
import Perhaps.Proofs.FlatMapForms
import Perhaps.Proofs.SuppliedErrors
import Perhaps.Proofs.DistinctValues
import Perhaps.Proofs.EqualityCongruence
import Perhaps.Proofs.Numerals
import Perhaps.Proofs.EscapedText
import Perhaps.Proofs.Sequences
import Perhaps.Proofs.LiteralReading
import Perhaps.Proofs.JsonReading
import Perhaps.Proofs.JsonLines
import Perhaps.Proofs.AssertionLaws
import Perhaps.Proofs.FrozenContainers
