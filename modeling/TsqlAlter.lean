import TsqlAlter.Cursor
import TsqlAlter.Main
import TsqlAlter.Proofs.CallDiscipline
import TsqlAlter.Proofs.Command.Lines
import TsqlAlter.Proofs.DataSourceName
import TsqlAlter.Proofs.Delegation
import TsqlAlter.Proofs.Difference
import TsqlAlter.Proofs.Faults
import TsqlAlter.Proofs.HintHistory
import TsqlAlter.Proofs.Indifference
import TsqlAlter.Proofs.Json.Diffs
import TsqlAlter.Proofs.Json.Settings
import TsqlAlter.Proofs.LengthNoise
import TsqlAlter.Proofs.NativeTypes
import TsqlAlter.Proofs.ReducedDiff
import TsqlAlter.Proofs.Server.Agreement
import TsqlAlter.Proofs.Server.Naming
import TsqlAlter.Proofs.Server.Redefinition
import TsqlAlter.Proofs.Sql.DefaultLiteral
import TsqlAlter.Proofs.Sql.RenameTarget
import TsqlAlter.Proofs.Suppression
import TsqlAlter.Proofs.VersionText
