import ThemeLint.Handlers
import ThemeLint.Main
import ThemeLint.Script
import ThemeLint.StartUp
import ThemeLint.Version
import ThemeLint.Proofs.ClientCalls
import ThemeLint.Proofs.Diagnosis
import ThemeLint.Proofs.Utf8
import ThemeLint.Proofs.DocumentPath
import ThemeLint.Proofs.Registration
import ThemeLint.Proofs.Plugins
import ThemeLint.Proofs.ConfigFile
import ThemeLint.Proofs.RegistryHistory
import ThemeLint.Proofs.MappingKeys
import ThemeLint.Proofs.Settings
import ThemeLint.Proofs.EngineFailures
import ThemeLint.Proofs.EnabledChecks
import ThemeLint.Proofs.ProjectRoot
import ThemeLint.Proofs.PathOrder
import ThemeLint.Proofs.ThemeFiles
import ThemeLint.Proofs.AnalysisOutcome
import ThemeLint.Proofs.ConfigFormat
import ThemeLint.Proofs.Outsiders
import ThemeLint.Proofs.PatternReading
import ThemeLint.Proofs.IgnorePatterns
import ThemeLint.Proofs.Diagnostics
import ThemeLint.Proofs.NamelessChecks
import ThemeLint.Proofs.NearestMarker
import ThemeLint.Proofs.DocumentLines
import ThemeLint.Proofs.MarkedText
import ThemeLint.Proofs.TextualWalk
import ThemeLint.Proofs.ConfiguredRoot
