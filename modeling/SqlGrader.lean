import SqlGrader.Main
import SqlGrader.Proofs.Benchmark.Breakdown
import SqlGrader.Proofs.Benchmark.Reconciliation
import SqlGrader.Proofs.Benchmark.Replay
import SqlGrader.Proofs.Benchmark.Written
import SqlGrader.Proofs.Data.NearestFloat
import SqlGrader.Proofs.Database.Redaction
import SqlGrader.Proofs.Database.Redisplay
import SqlGrader.Proofs.Database.RetryLoop
import SqlGrader.Proofs.Score.AliasRenaming
import SqlGrader.Proofs.Score.DefaultDirection
import SqlGrader.Proofs.Score.DefaultSchema
import SqlGrader.Proofs.Score.DroppedJoin
import SqlGrader.Proofs.Score.ExecutionMatch
import SqlGrader.Proofs.Score.ItemOrder
import SqlGrader.Proofs.Score.Quotient
import SqlGrader.Proofs.Score.Spacing
import SqlGrader.Proofs.Score.TableRenaming
import SqlGrader.Proofs.Sql.Assembly
import SqlGrader.Proofs.Sql.ClauseScan
import SqlGrader.Proofs.Sql.Extents
import SqlGrader.Proofs.Sql.Groups
import SqlGrader.Proofs.Sql.Idempotence
import SqlGrader.Proofs.Sql.ItemScan
import SqlGrader.Proofs.Sql.JoinBounds
import SqlGrader.Proofs.Sql.JoinedConditions
import SqlGrader.Proofs.Sql.Lossless
import SqlGrader.Proofs.Sql.NormalClauses
import SqlGrader.Proofs.Sql.OptionalAs
import SqlGrader.Proofs.Sql.OuterParens
import SqlGrader.Proofs.Sql.SectionEdits
import SqlGrader.Proofs.Sql.Slices
import SqlGrader.Proofs.Sql.Splitting
import SqlGrader.Proofs.Sql.Tiling
import SqlGrader.Proofs.Task.Ancestry
import SqlGrader.Proofs.Task.Execution
import SqlGrader.Proofs.Task.Failures
import SqlGrader.Proofs.Task.History
import SqlGrader.Proofs.Task.LeastOrder
import SqlGrader.Proofs.Task.Validation
