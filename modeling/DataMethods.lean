import DataMethods.Text.Blank
import DataMethods.Text.Caseless
import DataMethods.Text.Identifier
import DataMethods.Text.Uppercase
import DataMethods.Text.Digit
import DataMethods.Text.Printable
import DataMethods.Text.Quoted
import DataMethods.Decimal.Plain
import DataMethods.Value
import DataMethods.Session
import DataMethods.TypeName
import DataMethods.ImportTable
import DataMethods.MethodSpec.FieldValue
import DataMethods.MethodSpec.Fields
import DataMethods.Template.Basic
import DataMethods.Template.Fill
import DataMethods.CallForm.Pattern
import DataMethods.CallForm.Basic
import DataMethods.Settings.Process
import DataMethods.Settings.Build
import DataMethods.Failure
import DataMethods.Method.Render
import DataMethods.GeneratedType
import DataMethods.Main
import DataMethods.Proofs.ImportTable.Growth
import DataMethods.Proofs.Rendering.Composed
import DataMethods.Proofs.Rendering.Asks
import DataMethods.Proofs.Rendering.Alike
import DataMethods.Proofs.Method.Composed
import DataMethods.Proofs.ImportTable.Run
import DataMethods.Proofs.ImportTable.Settled
import DataMethods.Proofs.ImportTable.Names
import DataMethods.Proofs.ImportTable.Meaning
import DataMethods.Proofs.CallForm.Pieces
import DataMethods.Proofs.CallForm.Rendered
import DataMethods.Proofs.Method.Fragments
import DataMethods.Proofs.Method.Text
import DataMethods.Proofs.Template.Tag
import DataMethods.Proofs.Template.Grammar
import DataMethods.Proofs.Method.Refused
import DataMethods.Proofs.ImportTable.Claimants
import DataMethods.Proofs.TypeName.Cut
import DataMethods.Proofs.TypeName.Expression
import DataMethods.Proofs.ImportTable.Expressions
import DataMethods.Proofs.Template.Chunks
import DataMethods.Proofs.Template.Apart
import DataMethods.Proofs.Template.Written
import DataMethods.Proofs.Rendering.Refused
import DataMethods.Proofs.ImportTable.Clashless
import DataMethods.Proofs.Method.Code
import DataMethods.Proofs.Method.Variables
import DataMethods.Proofs.ImportTable.Bare
import DataMethods.Proofs.ImportTable.Unnamed
import DataMethods.Proofs.ImportTable.Packages
import DataMethods.Proofs.Settings.Kept
import DataMethods.Proofs.Method.Course
import DataMethods.Proofs.ImportTable.Malformed
import DataMethods.Proofs.TypeName.Joined
import DataMethods.Proofs.TypeName.RawNames
import DataMethods.Proofs.ImportTable.Interrupted
import DataMethods.Proofs.ImportTable.Reprinted
import DataMethods.Proofs.Template.Layout
import DataMethods.Proofs.Method.Bracketed
import DataMethods.Proofs.Failure.Forms
import DataMethods.Proofs.MethodSpec.Rules
import DataMethods.Proofs.Template.Reached
import DataMethods.Proofs.Text.Indented
import DataMethods.Proofs.Method.Indented
import DataMethods.Proofs.Method.Marked
import DataMethods.Proofs.Method.Sessions
