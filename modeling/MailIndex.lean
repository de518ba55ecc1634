import MailIndex.Main
import MailIndex.Json
import MailIndex.Store.Faulty
import MailIndex.Proofs.Store.Agreement
import MailIndex.Proofs.Query
import MailIndex.Proofs.Extraction
import MailIndex.Proofs.Search
import MailIndex.Proofs.Text.Utf8
import MailIndex.Proofs.Text.Uppercase
import MailIndex.Proofs.TextSearch
import MailIndex.Proofs.Flag
import MailIndex.Proofs.FlagSearch
import MailIndex.Proofs.Store.Ends
import MailIndex.Proofs.Faults
import MailIndex.Proofs.Isolation
import MailIndex.Proofs.FailedDeletions
import MailIndex.Proofs.CorruptCells
import MailIndex.Proofs.InterruptedScans
import MailIndex.Proofs.MessageCells
import MailIndex.Proofs.HeaderSearch
import MailIndex.Proofs.Store.Flaky
import MailIndex.Proofs.IdRange
import MailIndex.Proofs.DeleteReports
import MailIndex.Proofs.FlagUpdates
import MailIndex.Proofs.FilterUnion
import MailIndex.Proofs.RowContains
import MailIndex.Proofs.Acceptance
import MailIndex.Proofs.QueryUnion
import MailIndex.Proofs.Store.History
import MailIndex.Proofs.WholeCharacters
import MailIndex.Proofs.BucketTiling
import MailIndex.Proofs.SubjectCuts
import MailIndex.Proofs.SubjectReply
import MailIndex.Proofs.SubjectSearch
import MailIndex.Proofs.FlagTokens
import MailIndex.Proofs.RowOrder
import MailIndex.Proofs.FailedCommands
import MailIndex.Proofs.Timestamp
import MailIndex.Proofs.IdSet
import MailIndex.Proofs.MailboxText
import MailIndex.Proofs.Json
import MailIndex.Proofs.TokenCuts
