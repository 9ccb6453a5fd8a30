/-
The regex filter: `regex(pattern, flags=0)` and the `func` it binds.

`regexFunc` selects the text to match by the update's class (a message's text or caption, a
callback query's data, an inline query's query) and raises `ValueError` for any other class. When
that text is not empty it stores `list(p.finditer(value)) or None` in `update.matches`; in every case
it returns `bool(update.matches)`.

Results:
- `regexFunc_value`: on a non-empty text the filter stores the matches of the pattern, or `None`,
  and returns whether there is one.
- `regexFunc_selected`: on such a text the filter writes only `matches`, returns `True` exactly when
  it stores a list, and that list is not empty and holds spans of the text, in order, each ending
  at or before the next one starts.
- `regex_stale_matches`: on a message with neither text nor caption the filter writes nothing and
  returns the truth of whatever `matches` the update already held. The command filter resets its
  annotation first; this one does not.
-/
import Hydrogram.Types
import Hydrogram.Re.Forward

namespace Hydrogram

open Re

/-- the parameter `create` binds on a regex filter: the compiled pattern `p` -/
structure RegexFilter where
  p : Pattern
  deriving DecidableEq, Repr

/-- a pattern given as a string or already compiled -/
inductive StrOrPattern where
  | str (s : String)
  | pattern (p : Pattern)

/-- `regex(pattern, flags=0)`: a string pattern is compiled here, and may raise -/
def regex (pattern : StrOrPattern) (flags : Flags := {}) : Except PyError RegexFilter :=
  match pattern with
  | .pattern p => .ok ⟨p⟩
  | .str s => (compile s flags).map (⟨·⟩)

/-- `value`, selected by the update's class -/
def regexValue : Update → Except PyError (Option String)
  | .message m => .ok (pyOr m.text m.caption)
  | .callbackQuery q => .ok q.data
  | .inlineQuery q => .ok (some q.query)
  | u@(.other _) => .error (.valueError ("Regex filter doesn't work with " ++ u.typeRepr))

/-- `func(flt, _, update)` -/
def regexFunc (py : PyUnicode) (flt : RegexFilter) : EStateM PyError Update PyVal := fun u =>
  match regexValue u with
  | .error e => .error e u
  | .ok value =>
    let u := if truthy value then
        u.setMatches (pyOr (some (finditer py flt.p (value.getD "").data)) none)
      else u
    .ok (.bool (truthy u.«matches»)) u

@[simp] theorem regexValue_setCommand (u : Update) (c : Option (List String)) :
    regexValue (u.setCommand c) = regexValue u := by
  cases u <;> rfl

@[simp] theorem regexValue_setMatches (u : Update) (v : Option (List Match)) :
    regexValue (u.setMatches v) = regexValue u := by
  cases u <;> rfl

/-- whether `value` is non-empty: the only case in which the filter writes `matches` -/
def Update.selects (u : Update) : Bool :=
  match regexValue u with
  | .ok value => truthy value
  | .error _ => false

@[simp] theorem Update.selects_setCommand (u : Update) (c : Option (List String)) :
    (u.setCommand c).selects = u.selects := by
  simp [selects]

@[simp] theorem Update.selects_setMatches (u : Update) (v : Option (List Match)) :
    (u.setMatches v).selects = u.selects := by
  simp [selects]

theorem regexValue_ok {u : Update} {v : Option String} (h : regexValue u = .ok v) :
    ∀ t, u ≠ .other t := by
  rintro t rfl; cases h

/-- On a non-empty text the filter stores the matches, or `None` when there are none, and
returns whether there is one. -/
theorem regexFunc_value (py : PyUnicode) (flt : RegexFilter) (u : Update) (value : String)
    (h : regexValue u = .ok (some value)) (hv : value ≠ "") :
    regexFunc py flt u =
      let ms := finditer py flt.p value.data
      .ok (.bool !ms.isEmpty) (u.setMatches (if ms.isEmpty then none else some ms)) := by
  have hu := regexValue_ok h
  simp only [regexFunc, h, truthy_some, truthy_string, ne_eq, hv, not_false_eq_true,
    bne_iff_ne, if_true, Option.getD_some, Update.matches_setMatches _ _ hu]
  cases hm : (finditer py flt.p value.data).isEmpty <;> simp [pyOr, hm]

/-- When `value` is empty the filter writes nothing and returns the truth of the `matches` the
update holds. -/
theorem regexFunc_unselected (py : PyUnicode) (flt : RegexFilter) {u : Update}
    (h : u.selects = false) :
    regexFunc py flt u =
      match regexValue u with
      | .error e => .error e u
      | .ok _ => .ok (.bool (truthy u.«matches»)) u := by
  unfold Update.selects at h
  unfold regexFunc
  split <;> simp_all

/-- **On a selected update.** When the update has a non-empty text, caption, data or query, the
filter changes nothing but `matches`, returns `True` exactly when it stores a list there, and that
list is not empty and holds spans of the text, in order, each ending at or before the next one
starts. -/
theorem regexFunc_selected (py : PyUnicode) (flt : RegexFilter) {u u' : Update} {v : PyVal}
    (hs : u.selects = true) (h : regexFunc py flt u = .ok v u') :
    ∃ value : String, regexValue u = .ok (some value) ∧ u' = u.setMatches u'.«matches» ∧
      truthy v = u'.«matches».isSome ∧
      ∀ ms, u'.«matches» = some ms → ms ≠ [] ∧ ms.Chain' (fun a b => a.finish ≤ b.start) ∧
        ∀ mt ∈ ms, mt.Within value.data := by
  unfold Update.selects at hs
  rcases hv : regexValue u with e | _ | value <;> rw [hv] at hs
  · cases hs
  · cases hs
  · have hne : value ≠ "" := by simpa using hs
    have hu := regexValue_ok hv
    obtain ⟨hc, hw⟩ := finditerFrom_ordered py flt.p value.data _ 0 false (Nat.zero_le _)
    rw [regexFunc_value py flt u value hv hne] at h
    cases h
    refine ⟨value, rfl, by rw [Update.matches_setMatches _ _ hu], ?_⟩
    rw [Update.matches_setMatches _ _ hu]
    cases he : (finditer py flt.p value.data).isEmpty
    · refine ⟨rfl, ?_⟩
      rintro ms ⟨⟩
      exact ⟨by simpa using he, hc, fun mt h => (hw mt h).1⟩
    · simp

/-- `regex(r"\d+")` on `order 42` -/
theorem regexFunc_selected_order : ∃ (v : PyVal) (u' : Update),
    regexFunc asciiTables ⟨⟨.rep 1 none true (.set false [.cat .digit]), 0, {}⟩⟩
      (.message { text := some "order 42" }) = .ok v u' ∧
    ∃ value : String, regexValue (.message { text := some "order 42" }) = .ok (some value) ∧
      u' = (Update.message { text := some "order 42" }).setMatches u'.«matches» ∧
      truthy v = u'.«matches».isSome ∧
      ∀ ms, u'.«matches» = some ms → ms ≠ [] ∧ ms.Chain' (fun a b => a.finish ≤ b.start) ∧
        ∀ mt ∈ ms, mt.Within value.data :=
  ⟨_, _, rfl, regexFunc_selected asciiTables _ rfl rfl⟩

/-- On a message with no text and no caption, the filter returns the truth of the `matches` the
update already held, and leaves it there. -/
theorem regex_stale_matches (py : PyUnicode) (flt : RegexFilter) (ms : List Match) :
    regexFunc py flt (.message { «matches» := some ms }) =
      .ok (.bool !ms.isEmpty) (.message { «matches» := some ms }) := rfl

end Hydrogram
