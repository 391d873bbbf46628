import DotDrawing.Token.Span
import DotDrawing.Source.Event
import DotDrawing.Main
import DotDrawing.Proofs.Graph.Soundness
import DotDrawing.Proofs.Source.Meaning
import DotDrawing.Proofs.Source.RoundTrip
import DotDrawing.Proofs.Drawing.Reading
import DotDrawing.Proofs.Token.Lines
import DotDrawing.Proofs.Token.Quoting
import DotDrawing.Proofs.Graph.Grouping
import DotDrawing.Proofs.Source.Restatement
import DotDrawing.Proofs.Source.Layout
import DotDrawing.Proofs.Drawing.Parts
import DotDrawing.Proofs.Drawing.Appearance
import DotDrawing.Proofs.Drawing.Sameness
import DotDrawing.Proofs.AttributeList.InPlace
import DotDrawing.Proofs.AttributeList.Splitting
import DotDrawing.Proofs.Source.Texts
import DotDrawing.Proofs.Source.Events
import DotDrawing.Proofs.Command.Files
import DotDrawing.Proofs.Command.Run
import DotDrawing.Proofs.Header.First
import DotDrawing.Proofs.Command.Discovery
import DotDrawing.Proofs.Drawing.Background
import DotDrawing.Proofs.AttributeList.Comments
import DotDrawing.Proofs.Dict.Building
import DotDrawing.Proofs.Statement.Cutting
