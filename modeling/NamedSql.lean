import NamedSql.Check
import NamedSql.Desk
import NamedSql.Line.Offsets
import NamedSql.Line.Classify
import NamedSql.Main
import NamedSql.Segment
import NamedSql.Sample
import NamedSql.Value
import NamedSql.Proofs.Runs
import NamedSql.Proofs.Segments
import NamedSql.Proofs.LineEnds
import NamedSql.Proofs.Reads
import NamedSql.Proofs.FirstEvent
import NamedSql.Proofs.Escaping
import NamedSql.Proofs.TagLines
import NamedSql.Proofs.Classes
import NamedSql.Proofs.SoundStatements
import NamedSql.Proofs.Rendered
import NamedSql.Proofs.Reached
import NamedSql.Proofs.Refusals
import NamedSql.Proofs.Joined
import NamedSql.Proofs.Layout
import NamedSql.Proofs.Walks
import NamedSql.Proofs.Desks
import NamedSql.Proofs.Lookups
import NamedSql.Proofs.Sameness
import NamedSql.Proofs.BindVariables
import NamedSql.Proofs.EscapedTexts
import NamedSql.Proofs.Readings
import NamedSql.Proofs.Marks
import NamedSql.Proofs.FirstMark
import NamedSql.Proofs.NormalLines
import NamedSql.Proofs.Spellings
import NamedSql.Proofs.KeptKinds
import NamedSql.Proofs.Notices
import NamedSql.Proofs.Cuts
import NamedSql.Proofs.Descriptions
import NamedSql.Proofs.Listings
import NamedSql.Proofs.Samples
