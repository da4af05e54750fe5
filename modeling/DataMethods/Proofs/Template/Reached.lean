import DataMethods.Template.Fill
import Mathlib.Data.List.Find

/-!
# The names that a template reaches

Filling a template goes through it in the order of its source, and of each branch through one part
only: the one that the value of its variable selects. The `path` is the row of the texts, slots and
branches that are met on the way, and the names in it are those that are reached. They alone have to
be given values, and they alone count: the text is what the stops on the path add to it, one after
the other, and no value is read for anything but its text and its truth.

## Key results

- `print_eq_walk`: filling is going through the path
- `path_congr`: the path depends on the truth of the values that are reached
- `fill_follows_path`: which contexts fill a template, with which text, and what the others lack
-/

namespace DataMethods.Template

/-- What is met on the way through a template: a text, a slot, or a branch whose variable is
    tested. -/
inductive Stop where
  | text (s : String)
  | slot (name : String)
  | test (name : String)
deriving Repr, DecidableEq

namespace Stop

/-- The variable whose value is needed to go on. -/
def name? : Stop → Option String
  | .text _ => none
  | .slot name => some name
  | .test name => some name

/-- What a stop adds to the text. -/
def printed (context : Context) : Stop → String
  | .text s => s
  | .slot name => ((context.lookup name).map Value.text).getD ""
  | .test _ => ""

end Stop

/-- The way through a template in a context. Behind a branch whose variable has no value it goes on
    as if both parts were empty. -/
def path (context : Context) : Template → List Stop
  | .done => []
  | .text s rest => .text s :: path context rest
  | .slot name rest => .slot name :: path context rest
  | .branch name negated yes no rest =>
    let part :=
      match context.lookup name with
      | some v => bif v.truth != negated then path context yes else path context no
      | none => []
    .test name :: (part ++ path context rest)

/-- The names that a row of stops needs, in order. -/
def namesIn (stops : List Stop) : List String :=
  stops.filterMap Stop.name?

/-- The names that are reached on the way through a template, in order. -/
def reached (context : Context) (t : Template) : List String :=
  namesIn (path context t)

/-- The text of a row of stops, or the first name in it that has no value. -/
def walk (context : Context) (stops : List Stop) : Except FillError String :=
  match (namesIn stops).find? fun name => (context.lookup name).isNone with
  | some name => .error (.missing name)
  | none => .ok (String.join (stops.map (Stop.printed context)))

variable {context other : Context} {name : String} {v : Value}

theorem namesIn_append (xs ys : List Stop) : namesIn (xs ++ ys) = namesIn xs ++ namesIn ys :=
  List.filterMap_append

/-! ## Going through rows of stops -/

/-- A row in two parts is gone through part by part. A name that is missing in the first part is
    found before any in the second. -/
theorem walk_append (xs ys : List Stop) :
    walk context (xs ++ ys) =
      (walk context xs).bind fun first => (walk context ys).map (first ++ ·) := by
  rw [walk, walk, walk, namesIn_append, List.find?_append]
  cases (namesIn xs).find? fun name => (context.lookup name).isNone with
  | some name => rfl
  | none =>
    cases (namesIn ys).find? fun name => (context.lookup name).isNone with
    | some name => rfl
    | none =>
      rw [List.map_append, String.join_append]
      rfl

theorem walk_cons (stop : Stop) (stops : List Stop) :
    walk context (stop :: stops) =
      (walk context [stop]).bind fun first => (walk context stops).map (first ++ ·) :=
  walk_append [stop] stops

theorem walk_text (s : String) : walk context [.text s] = .ok s := by
  simp [walk, namesIn, Stop.name?, Stop.printed]

theorem walk_slot (h : context.lookup name = some v) :
    walk context [.slot name] = .ok v.text := by
  simp [walk, namesIn, Stop.name?, Stop.printed, h]

theorem walk_test (h : context.lookup name = some v) : walk context [.test name] = .ok "" := by
  simp [walk, namesIn, Stop.name?, Stop.printed, h]

/-- A row that begins with a name without a value ends there. -/
theorem walk_missing {stop : Stop} (stops : List Stop) (hname : stop.name? = some name)
    (h : context.lookup name = none) : walk context (stop :: stops) = .error (.missing name) := by
  simp [walk, namesIn, hname, h]

theorem walk_eq_error_iff {stops : List Stop} {e : FillError} :
    walk context stops = .error e ↔ ∃ before name after,
      namesIn stops = before ++ name :: after ∧
      (∀ n ∈ before, ∃ v, context.lookup n = some v) ∧ context.lookup name = none ∧
      e = .missing name := by
  have hfind (name : String) :
      (namesIn stops).find? (fun name => (context.lookup name).isNone) = some name ↔
        ∃ before after, namesIn stops = before ++ name :: after ∧
          (∀ n ∈ before, ∃ v, context.lookup n = some v) ∧ context.lookup name = none := by
    rw [List.find?_eq_some_iff_append]
    simp only [Option.isNone_iff_eq_none, Bool.not_eq_eq_eq_not, Bool.not_true,
      Option.isNone_eq_false_iff, Option.isSome_iff_exists]
    constructor
    · rintro ⟨hnone, before, after, hsplit, hbefore⟩
      exact ⟨before, after, hsplit, hbefore, hnone⟩
    · rintro ⟨before, after, hsplit, hbefore, hnone⟩
      exact ⟨hnone, before, after, hsplit, hbefore⟩
  rw [walk]
  cases hfirst : (namesIn stops).find? fun name => (context.lookup name).isNone with
  | some first =>
    constructor
    · intro h
      obtain ⟨before, after, hsplit, hbefore, hnone⟩ := (hfind first).mp hfirst
      cases h
      exact ⟨before, first, after, hsplit, hbefore, hnone, rfl⟩
    · rintro ⟨before, name, after, hsplit, hbefore, hnone, rfl⟩
      -- There is only one first name without a value.
      have hname := (hfind name).mpr ⟨before, after, hsplit, hbefore, hnone⟩
      rw [hfirst, Option.some.injEq] at hname
      rw [hname]
  | none =>
    constructor
    · intro h
      contradiction
    · rintro ⟨before, name, after, hsplit, hbefore, hnone, rfl⟩
      have hname := (hfind name).mpr ⟨before, after, hsplit, hbefore, hnone⟩
      rw [hfirst] at hname
      contradiction

theorem walk_eq_ok_iff {stops : List Stop} {text : String} :
    walk context stops = .ok text ↔ (∀ n ∈ namesIn stops, ∃ v, context.lookup n = some v) ∧
      text = String.join (stops.map (Stop.printed context)) := by
  have hfind : (namesIn stops).find? (fun name => (context.lookup name).isNone) = none ↔
      ∀ n ∈ namesIn stops, ∃ v, context.lookup n = some v := by
    simp only [List.find?_eq_none, Option.isNone_iff_eq_none, ← Option.ne_none_iff_exists', ne_eq]
  rw [walk, ← hfind]
  cases (namesIn stops).find? fun name => (context.lookup name).isNone with
  | some first => simp
  | none => simp [eq_comm]

/-- Contexts that agree on the names of a row make the same of it. -/
theorem walk_congr {stops : List Stop}
    (h : ∀ n ∈ namesIn stops, other.lookup n = context.lookup n) :
    walk other stops = walk context stops := by
  have hmissing : (namesIn stops).find? (fun name => (other.lookup name).isNone) =
      (namesIn stops).find? fun name => (context.lookup name).isNone :=
    List.find?_congr fun n hn => congrArg Option.isNone (h n hn)
  have hprinted : stops.map (Stop.printed other) = stops.map (Stop.printed context) := by
    refine List.map_congr_left fun stop hstop => ?_
    cases stop with
    | text s => rfl
    | slot name =>
      have hname : name ∈ namesIn stops := List.mem_filterMap.mpr ⟨.slot name, hstop, rfl⟩
      rw [Stop.printed, Stop.printed, h name hname]
    | test name => rfl
  rw [walk, walk, hmissing, hprinted]

/-! ## Going through templates -/

/-- Filling a template is going through its path. -/
theorem print_eq_walk (t : Template) : print context t = walk context (path context t) := by
  -- By induction on the template. A part of a branch stands in the path before what follows it.
  induction t with
  | done => rfl
  | text s rest ih =>
    rw [print_text, ih, path, walk_cons, walk_text]
    rfl
  | slot name rest ih =>
    cases hvalue : context.lookup name with
    | none =>
      rw [path, walk_missing _ rfl hvalue, print, value, hvalue]
      rfl
    | some v =>
      rw [print_slot hvalue, ih, path, walk_cons, walk_slot hvalue]
      rfl
  | branch name negated yes no rest ihyes ihno ihrest =>
    cases hvalue : context.lookup name with
    | none =>
      rw [path, walk_missing _ rfl hvalue, print, value, hvalue]
      rfl
    | some v =>
      have hpart :
          walk context (bif v.truth != negated then path context yes else path context no) =
            print context (bif v.truth != negated then yes else no) := by
        cases v.truth != negated with
        | true => exact ihyes.symm
        | false => exact ihno.symm
      rw [print_branch hvalue, path, walk_cons, walk_test hvalue, hvalue, walk_append, hpart,
        ihrest]
      cases print context (bif v.truth != negated then yes else no) with
      | error e => rfl
      | ok part =>
        cases walk context (path context rest) with
        | error e => rfl
        | ok after => simp [Except.bind, Except.map]

/-- The way is the same in all contexts in which the names on it have values of the same truth. -/
theorem path_congr {t : Template}
    (h : ∀ n ∈ reached context t,
      (other.lookup n).map Value.truth = (context.lookup n).map Value.truth) :
    path other t = path context t := by
  induction t with
  | done => rfl
  | text s rest ih => exact congrArg (.text s :: ·) (ih h)
  | slot name rest ih =>
    exact congrArg (.slot name :: ·) (ih fun n hn => h n (List.mem_cons_of_mem name hn))
  | branch name negated yes no rest ihyes ihno ihrest =>
    have htest := h name List.mem_cons_self
    cases hvalue : context.lookup name with
    | none =>
      have hother : other.lookup name = none := by simpa [hvalue] using htest
      have hrest : path other rest = path context rest := by
        refine ihrest fun n hn => h n ?_
        simp only [reached, path, hvalue]
        exact List.mem_cons_of_mem name hn
      simp only [path, hvalue, hother, hrest]
    | some v =>
      obtain ⟨w, hother, htruth⟩ : ∃ w, other.lookup name = some w ∧ w.truth = v.truth := by
        simpa [hvalue] using htest
      -- The names of the part that is taken come first, then those behind the branch.
      have hnames : reached context (.branch name negated yes no rest) =
          name :: (reached context (bif v.truth != negated then yes else no) ++
            reached context rest) := by
        simp only [reached, path, hvalue]
        cases v.truth != negated <;> exact congrArg (name :: ·) (namesIn_append _ _)
      rw [hnames, List.forall_mem_cons, List.forall_mem_append] at h
      have hpart : (bif v.truth != negated then path other yes else path other no) =
          bif v.truth != negated then path context yes else path context no := by
        cases htaken : v.truth != negated with
        | true => exact ihyes (by simpa [htaken] using h.2.1)
        | false => exact ihno (by simpa [htaken] using h.2.1)
      simp only [path, hvalue, hother, htruth, hpart, ihrest h.2.2]

/-- A context fails to fill a template if, and only if, a name is reached that it gives no value;
    the error names the first one. Otherwise the text is what the stops on the path add to it. So a
    name in a part that is not taken may be without a value, and a context with the same values for
    the names that are reached has the same text or error. If their values are merely of the same
    truth, the path is the same still: nothing that is put in for a slot is read as a part of the
    template. -/
theorem fill_follows_path (t : Template) (context : Context)
    (hown : context.lookup FillError.ownWord = none) :
    (∀ e, t.fill context = .error e ↔ ∃ before name after,
      reached context t = before ++ name :: after ∧
      (∀ n ∈ before, ∃ v, context.lookup n = some v) ∧ context.lookup name = none ∧
      e = .missing name) ∧
    (∀ text, t.fill context = .ok text ↔ (∀ n ∈ reached context t, ∃ v, context.lookup n = some v) ∧
      text = String.join ((path context t).map (Stop.printed context))) ∧
    ∀ other : Context, other.lookup FillError.ownWord = none →
      ((∀ n ∈ reached context t, other.lookup n = context.lookup n) →
        t.fill other = t.fill context) ∧
      ((∀ n ∈ reached context t,
          (other.lookup n).map Value.truth = (context.lookup n).map Value.truth) →
        path other t = path context t) := by
  rw [fill_eq_print hown, print_eq_walk]
  refine ⟨fun e => walk_eq_error_iff, fun text => walk_eq_ok_iff, fun other hother => ?_⟩
  refine ⟨fun hsame => ?_, path_congr⟩
  have hpath : path other t = path context t :=
    path_congr fun n hn => congrArg (Option.map Value.truth) (hsame n hn)
  rw [fill_eq_print hother, print_eq_walk, hpath]
  exact walk_congr hsame

/-- The value of `draft` selects the second part, so neither the title nor the note is reached. A
    value that looks like a slot is printed as it is. In an empty context the way ends at
    `draft`. -/
theorem fill_follows_path_draft :
    let page : Template := .branch "draft" true
      (.slot "title" <| .branch "note" false (.slot "note" .done) .done .done)
      (.text "draft " <| .slot "name" .done) .done
    let context : Context := [("draft", .bool true), ("name", .str "\x7b\x7b title \x7d\x7d")]
    let titled : Context := ("title", .str "A") :: context
    let empty : Context := []
    context.lookup FillError.ownWord = none ∧
    page.fill context = .ok "draft \x7b\x7b title \x7d\x7d" ∧
    titled.lookup FillError.ownWord = none ∧ page.fill titled = page.fill context ∧
    empty.lookup FillError.ownWord = none ∧ page.fill empty = .error (.missing "draft") := by
  intro page context titled empty
  have hown : context.lookup FillError.ownWord = none := by decide
  have hreached : reached context page = ["draft", "name"] := by decide
  obtain ⟨-, hok, hother⟩ := fill_follows_path page context hown
  have htext : page.fill context = .ok "draft \x7b\x7b title \x7d\x7d" := by
    rw [hok, hreached, List.forall_mem_cons, List.forall_mem_singleton]
    exact ⟨⟨⟨_, rfl⟩, _, rfl⟩, by decide⟩
  have htitled : page.fill titled = page.fill context := by
    refine (hother titled rfl).1 ?_
    rw [hreached, List.forall_mem_cons, List.forall_mem_singleton]
    exact ⟨rfl, rfl⟩
  obtain ⟨herror, -⟩ := fill_follows_path page empty rfl
  have hempty : page.fill empty = .error (.missing "draft") :=
    (herror _).mpr ⟨[], "draft", [], by decide, by simp, rfl, rfl⟩
  exact ⟨hown, htext, rfl, htitled, rfl, hempty⟩

end DataMethods.Template
