import CellGraph.Main
import CellGraph.Proofs.Book.Walk
import CellGraph.Proofs.Diagram.Dependencies
import CellGraph.Proofs.Diagram.Flowchart
import CellGraph.Proofs.Diagram.Link
import CellGraph.Proofs.Diagram.Views
import CellGraph.Proofs.Dialect.Dependencies
import CellGraph.Proofs.Dialect.Local
import CellGraph.Proofs.Dialect.Mean
import CellGraph.Proofs.Dialect.Opaque
import CellGraph.Proofs.Dialect.Printed
import CellGraph.Proofs.Dialect.Rewriting
import CellGraph.Proofs.Dialect.Sums
import CellGraph.Proofs.Dialect.Totality
import CellGraph.Proofs.Dialect.Unresolved
import CellGraph.Proofs.Grid.Failures
import CellGraph.Proofs.Grid.Labels
import CellGraph.Proofs.Grid.Links
import CellGraph.Proofs.Grid.Markers
import CellGraph.Proofs.Grid.Plane
import CellGraph.Proofs.Grid.Texts
import CellGraph.Proofs.Json.Reading
import CellGraph.Proofs.Keys.Bare
import CellGraph.Proofs.Keys.Collisions
import CellGraph.Proofs.Keys.External
import CellGraph.Proofs.Keys.Placeholders
import CellGraph.Proofs.Keys.Ranges
import CellGraph.Proofs.Keys.Written
import CellGraph.Proofs.Lexing.Neighbours
import CellGraph.Proofs.Model.Layout
import CellGraph.Proofs.Model.Script
import CellGraph.Proofs.Parsing.Grammar
import CellGraph.Proofs.Service.Effects
