import DataMethods.ImportTable
import DataMethods.Proofs.TypeName.Expression

/-!
# Printing type expressions

A table prints a type expression name by name. Each raw name in it is printed from left to right, by
the table that the names before it have left; around the names stands the canonical spelling. How
the type was written makes no difference.

## Key results

- `printPieces_pieces`: the pieces of an expression are printed as the expression
- `request_written`: a request for a type is granted, however the type is written
-/

namespace DataMethods

namespace ImportTable

/-- Prints a raw name, and goes on with the table that this leaves. -/
def resolve (name : TypeName.RawName) : StateM ImportTable String :=
  modifyGet fun t => t.printName name.text

/-- The canonical spelling of an expression in which every raw name is replaced by its printed form,
    from left to right. -/
def printExpr : {c : TypeName.Category} → TypeName.Expr c → StateM ImportTable String
  | _, .raw name => resolve name
  | _, .generic name row => do
    let head ← resolve name
    let inside ← printExpr row
    return head ++ "<" ++ inside ++ ">"
  | _, .dimension of d => do
    let type ← printExpr of
    return type ++ d.text
  | _, .wildcard => return "?"
  | _, .bounded b of => do
    let bound ← printExpr of
    return b.lead ++ bound
  | _, .plain type => printExpr type
  | _, .last a => printExpr a
  | _, .more a row => do
    let first ← printExpr a
    let rest ← printExpr row
    return first ++ ", " ++ rest

theorem printPieces_append (t : ImportTable) (ps qs : List TypeName.Piece) :
    t.printPieces (ps ++ qs) =
      ((t.printPieces ps).1 ++ ((t.printPieces ps).2.printPieces qs).1,
        ((t.printPieces ps).2.printPieces qs).2) := by
  induction ps generalizing t with
  | nil => simp [printPieces]
  | cons p ps ih =>
    cases p with
    | mark text => simp only [List.cons_append, printPieces, ih, String.append_assoc]
    | name raw => simp only [List.cons_append, printPieces, ih, String.append_assoc]

section

variable (t : ImportTable)

theorem run_generic (name : TypeName.RawName) (row : TypeName.Expr .arguments) :
    (printExpr (.generic name row)).run t =
      let head := t.printName name.text
      let inside := (printExpr row).run head.2
      (head.1 ++ "<" ++ inside.1 ++ ">", inside.2) := rfl

theorem run_dimension (of : TypeName.Expr .type) (d : TypeName.Dimension) :
    (printExpr (.dimension of d)).run t =
      let type := (printExpr of).run t
      (type.1 ++ d.text, type.2) := rfl

theorem run_bounded (b : TypeName.Bound) (of : TypeName.Expr .type) :
    (printExpr (.bounded b of)).run t =
      let bound := (printExpr of).run t
      (b.lead ++ bound.1, bound.2) := rfl

theorem run_more (a : TypeName.Expr .argument) (row : TypeName.Expr .arguments) :
    (printExpr (.more a row)).run t =
      let first := (printExpr a).run t
      let rest := (printExpr row).run first.2
      (first.1 ++ ", " ++ rest.1, rest.2) := rfl

end

/-- The pieces of an expression are printed as the expression. -/
theorem printPieces_pieces {c : TypeName.Category} (e : TypeName.Expr c) (t : ImportTable) :
    t.printPieces e.pieces = (printExpr e).run t := by
  induction e generalizing t with
  | raw name =>
    show ((t.printName name.text).1 ++ "", (t.printName name.text).2) = t.printName name.text
    rw [String.append_empty]
  | generic name row ih =>
    rw [run_generic]
    simp only [TypeName.Expr.pieces, printPieces, printPieces_append, ih, String.append_empty,
      String.append_assoc]
  | dimension of d ih =>
    rw [run_dimension]
    simp only [TypeName.Expr.pieces, printPieces, printPieces_append, ih, String.append_empty]
  | wildcard => rfl
  | bounded b of ih =>
    rw [run_bounded]
    simp only [TypeName.Expr.pieces, printPieces, ih]
  | plain type ih => exact ih t
  | last a ih => exact ih t
  | more a row ih ihRow =>
    rw [run_more]
    simp only [TypeName.Expr.pieces, printPieces, printPieces_append, ih, ihRow,
      String.append_assoc]

/-! ## Requests -/

/-- The text writes the type, with any white space at its ends as well. -/
def WritesType (type : TypeName.Expr .type) (text : String) : Prop :=
  ∃ before s after, Text.AllBlank before ∧ TypeName.Writes type s ∧ Text.AllBlank after ∧
    text.toList = before ++ s ++ after

theorem read_of_writesType {type : TypeName.Expr .type} {text : String} (h : WritesType type text) :
    TypeName.read (Text.trim text.toList) = ⟨type.pieces, none⟩ := by
  obtain ⟨before, s, after, hbefore, hwrites, hafter, htext⟩ := h
  have htrim : Text.trim text.toList = s := by
    rw [htext]
    exact (hwrites.solid (by decide)).trim_between hbefore hafter
  rw [htrim, TypeName.read_of_writes hwrites]

/-- However a type is written and whatever a table has come to hold, a request for the type is
    granted. It is printed in its canonical spelling with every raw name in it replaced by what this
    name is printed as, from left to right, and the table is left as these names leave it. -/
theorem request_written (t : ImportTable) {type : TypeName.Expr .type} {text : String}
    (h : WritesType type text) :
    (t.request text).outcome = .ok ((printExpr type).run t).1 ∧
    (t.request text).state = ((printExpr type).run t).2 := by
  simp only [request, read_of_writesType h, printPieces_pieces, and_self]

/-- An array of maps, with a wildcard among its arguments and white space in all kinds of places. -/
theorem request_written_map :
    let map : TypeName.RawName := ⟨"java.util.Map", by decide +kernel⟩
    let key : TypeName.RawName := ⟨"a.Key", by decide +kernel⟩
    let value : TypeName.RawName := ⟨"c.Map", by decide +kernel⟩
    let arguments : TypeName.Expr .arguments :=
      .more (.plain (.dimension (.raw key) .array))
        (.last (.bounded .upper (.dimension (.generic value (.last .wildcard)) .variableLength)))
    let type : TypeName.Expr .type := .dimension (.generic map arguments) .array
    let text := "\tjava.util.Map < a.Key [] ,? extends  c.Map<?> ...>\n[] "
    let t := ImportTable.empty "a"
    WritesType type text ∧
    (t.request text).outcome = .ok "Map<Key[], ? extends c.Map<?>...>[]" ∧
    (t.request text).state = ((printExpr type).run t).2 := by
  intro map key value arguments type text t
  have hspace : Text.AllBlank [' '] := by decide
  have hnone : Text.AllBlank [] := by decide
  have hkey := TypeName.Writes.dimension .array (.raw key) hspace
  have hvalue := TypeName.Writes.generic value hnone (.last hnone .wildcard hnone)
  have hbound := TypeName.Writes.bounded .upper hspace (.dimension .variableLength hvalue hspace)
  have harguments : TypeName.Writes arguments _ :=
    .more hspace (.plain hkey) hspace (.last hnone hbound hnone)
  have hwhole : TypeName.Writes type _ :=
    .dimension .array (.generic map hspace harguments) (by decide : Text.AllBlank ['\n'])
  have hwrites : WritesType type text :=
    ⟨['\t'], _, [' '], by decide, hwhole, hspace, by decide +kernel⟩
  obtain ⟨houtcome, hstate⟩ := request_written t hwrites
  have hprinted : ((printExpr type).run t).1 = "Map<Key[], ? extends c.Map<?>...>[]" := by
    decide +kernel
  exact ⟨hwrites, houtcome.trans (congrArg _ hprinted), hstate⟩

end ImportTable

end DataMethods
