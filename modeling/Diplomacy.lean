import Diplomacy.Answer
import Diplomacy.Event
import Diplomacy.Failure
import Diplomacy.Grammar.Batch
import Diplomacy.Grammar.Keyword
import Diplomacy.Grammar.Rule
import Diplomacy.Order.Basic
import Diplomacy.Order.Draft
import Diplomacy.Order.Printer
import Diplomacy.Order.Property
import Diplomacy.Parser.Adapter
import Diplomacy.Parser.Basic
import Diplomacy.Parser.Blueprint
import Diplomacy.Parser.Complete
import Diplomacy.Parser.Tag
import Diplomacy.Parser.Transcript
import Diplomacy.Parser.Transform
import Diplomacy.Place
import Diplomacy.Proofs.Grammar.Batch
import Diplomacy.Proofs.Grammar.Body
import Diplomacy.Proofs.Grammar.Clean
import Diplomacy.Proofs.Grammar.Ending
import Diplomacy.Proofs.Grammar.Excerpt
import Diplomacy.Proofs.Grammar.Find
import Diplomacy.Proofs.Grammar.Language
import Diplomacy.Proofs.Grammar.Lenient
import Diplomacy.Proofs.Grammar.Line
import Diplomacy.Proofs.Grammar.Log
import Diplomacy.Proofs.Grammar.Misleading
import Diplomacy.Proofs.Grammar.Reread
import Diplomacy.Proofs.Grammar.Respelling
import Diplomacy.Proofs.Grammar.RoundTrip
import Diplomacy.Proofs.Grammar.Rule
import Diplomacy.Proofs.Grammar.Shape
import Diplomacy.Proofs.Grammar.Shortest
import Diplomacy.Proofs.Grammar.Split
import Diplomacy.Proofs.Grammar.Unit
import Diplomacy.Proofs.Grammar.Unnamed
import Diplomacy.Proofs.Order.Printer
import Diplomacy.Proofs.Parser.Chain
import Diplomacy.Proofs.Parser.Complete
import Diplomacy.Proofs.Parser.Remainder
import Diplomacy.Proofs.Parser.Sequence
import Diplomacy.Proofs.Parser.Tag
import Diplomacy.Proofs.Place.Boundary
import Diplomacy.Proofs.Place.Enumeration
import Diplomacy.Proofs.Run.Alike
import Diplomacy.Proofs.Run.Every
import Diplomacy.Proofs.Run.Pulls
import Diplomacy.Proofs.Run.Search
import Diplomacy.Proofs.Session.Desk
import Diplomacy.Proofs.Session.Interleaving
import Diplomacy.Proofs.Session.Schedule
import Diplomacy.Proofs.Text.Character
import Diplomacy.Proofs.Text.Line
import Diplomacy.Proofs.Text.Lowercase
import Diplomacy.Proofs.Text.Quoted
import Diplomacy.Proofs.Text.Respelling
import Diplomacy.Proofs.Text.Spelling
import Diplomacy.Proofs.Text.Tag
import Diplomacy.Proofs.Text.Word
import Diplomacy.Run.Basic
import Diplomacy.Run.Pull
import Diplomacy.Run.Transcript
import Diplomacy.Session.Bench
import Diplomacy.Session.Desk
import Diplomacy.Text.Basic
import Diplomacy.Text.Casing
import Diplomacy.Text.Letter
import Diplomacy.Text.Lowercase
import Diplomacy.Text.Printable
import Diplomacy.Text.Quoted
import Diplomacy.Value
