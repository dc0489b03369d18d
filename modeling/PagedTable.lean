import PagedTable.Main
import PagedTable.Proofs.Filter.Reading
import PagedTable.Proofs.Filter.Grammar
import PagedTable.Proofs.Filter.Dangling
import PagedTable.Proofs.Filter.Leaves
import PagedTable.Proofs.Filter.LetterCase
import PagedTable.Proofs.Filter.Lexing
import PagedTable.Proofs.Filter.Matching
import PagedTable.Proofs.Filter.Ordering
import PagedTable.Proofs.Filter.Spelling
import PagedTable.Proofs.Filter.Symbol
import PagedTable.Proofs.Filter.Term
import PagedTable.Proofs.Filter.Writing
import PagedTable.Proofs.Drawn.Faithful
import PagedTable.Proofs.Drawn.Patch
import PagedTable.Proofs.Drawn.RowEdits
import PagedTable.Proofs.Drawn.Serial
import PagedTable.Proofs.Paging.Bar
import PagedTable.Proofs.Paging.Entries
import PagedTable.Proofs.Paging.Pages
import PagedTable.Proofs.Paging.Partition
import PagedTable.Proofs.Paging.Window
import PagedTable.Proofs.Paging.Words
import PagedTable.Proofs.Table.Refresh
import PagedTable.Proofs.Table.UpToDate
import PagedTable.Proofs.Gesture.Move
import PagedTable.Proofs.Gesture.Stretch
import PagedTable.Proofs.Gesture.Block
import PagedTable.Proofs.Gesture.Pace
import PagedTable.Proofs.Gesture.Slot
import PagedTable.Proofs.Selection.Range
import PagedTable.Proofs.Selection.Count
import PagedTable.Proofs.Selection.Header
import PagedTable.Proofs.Table.Checks
import PagedTable.Proofs.Table.Deferral
import PagedTable.Proofs.Table.Delivery
import PagedTable.Proofs.Table.DragReports
import PagedTable.Proofs.Table.Drop
import PagedTable.Proofs.Table.FilteredDrop
import PagedTable.Proofs.Table.Filling
import PagedTable.Proofs.Table.Leafing
import PagedTable.Proofs.Table.Moving
import PagedTable.Proofs.Table.PagerClick
import PagedTable.Proofs.Table.Postponing
import PagedTable.Proofs.Table.Preview
import PagedTable.Proofs.Source.Accounting
import PagedTable.Proofs.Viewer.Turn
import PagedTable.Proofs.Viewer.Columns
import PagedTable.Proofs.Viewer.Aim
import PagedTable.Proofs.Viewer.Body
import PagedTable.Proofs.Viewer.Boxes
import PagedTable.Proofs.Viewer.Typing
import PagedTable.Proofs.Viewer.Scrolling
import PagedTable.Proofs.Viewer.Fields
import PagedTable.Proofs.Viewer.PagerLine
import PagedTable.Proofs.Viewer.Widths
import PagedTable.Proofs.Filter.Containment
