import CinderCsi.Go.Strings

/-!
# The volume id that the end-to-end driver reads from `cinder create`

The end-to-end test driver (`package test`) creates its volumes with the `cinder` client and reads
the new volume's id from the table that the client prints:

```
+---------------------+--------------------------------------+
|       Property      |                Value                 |
+---------------------+--------------------------------------+
|  availability_zone  |                 nova                 |
|          id         | 1d6ff08f-5d1c-41a4-ad72-4ef872cae685 |
```

`CreateVolume` splits the output into lines and each line into its `strings.Fields`, and takes the
fourth field of the first line that has five fields and `id` for the second (`createVolumeID`).
A row is `|`, its key, `|`, its value and `|`, each cell padded with blanks, so the line has five
fields exactly when the key and the value are one word each; a border is one field.

`createVolumeID_table` is the round trip: on any such table, with keys that are words and no newline
inside a value, the parser returns the value of the first row whose key is `id`, provided that
value is one word, and the empty id when there is no such row. A value of several words elsewhere
(a description) is skipped, and the column widths do not matter.
-/

namespace CinderCsi.Test

/-- The loop of `CreateVolume` over the output's lines: the fourth field of the first line with five
fields whose second is `id`, or `""`. -/
def volumeIDOfLines : List (List Char) → List Char
  | [] => []
  | line :: lines =>
    match Go.fields line with
    | [_, key, _, value, _] => if key = "id".toList then value else volumeIDOfLines lines
    | _ => volumeIDOfLines lines

/-- The volume id that `CreateVolume` reads from the output of `cinder create`. -/
def createVolumeID (outputString : String) : String :=
  String.mk (volumeIDOfLines (outputString.toList.splitOn '\n'))

/-! ## The table -/

/-- `n` blanks. -/
def blanks (n : Nat) : List Char := List.replicate n ' '

/-- The dashes of a border's cells, each closed by a `+`. -/
def borderCells : List Nat → List Char
  | [] => []
  | w :: ws => List.replicate w '-' ++ '+' :: borderCells ws

/-- A line of the table that the `cinder` client prints. -/
inductive TableLine where
  /-- A border: `+`, then cells of dashes of the given widths, each closed by `+`. -/
  | border (widths : List Nat)
  /-- A row: a key and a value, each with at least one blank before and after it. -/
  | row (key value : List Char) (a b c d : Nat)
deriving DecidableEq, Repr

/-- The text of a line. -/
def TableLine.render : TableLine → List Char
  | .border widths => '+' :: borderCells widths
  | .row key value a b c d =>
    '|' :: ' ' :: (blanks a ++ (key ++ ' ' :: (blanks b ++ ('|' :: ' ' :: (blanks c ++
      (value ++ ' ' :: (blanks d ++ ['|'])))))))

/-- The key and the value of a row. -/
def TableLine.entry : TableLine → Option (List Char × List Char)
  | .border _ => none
  | .row key value _ _ _ _ => some (key, value)

/-- Some characters, none of them a space. -/
def IsWord (w : List Char) : Prop := w ≠ [] ∧ ∀ x ∈ w, Go.isSpace x = false

instance (w : List Char) : Decidable (IsWord w) :=
  inferInstanceAs (Decidable (w ≠ [] ∧ ∀ x ∈ w, Go.isSpace x = false))

/-- What the parser relies on: a key is a word, a value holds no newline, and the value of the row
whose key is `id` is a word. -/
def TableLine.WellFormed : TableLine → Prop
  | .border _ => True
  | .row key value _ _ _ _ => IsWord key ∧ '\n' ∉ value ∧ (key = "id".toList → IsWord value)

instance : (l : TableLine) → Decidable l.WellFormed
  | .border _ => inferInstanceAs (Decidable True)
  | .row key value _ _ _ _ => inferInstanceAs (Decidable
      (IsWord key ∧ '\n' ∉ value ∧ (key = "id".toList → IsWord value)))

/-! ## Fields of a line -/

/-- A border holds only dashes and `+`. -/
theorem mem_border {widths : List Nat} {x : Char} (hx : x ∈ (TableLine.border widths).render) :
    x = '-' ∨ x = '+' := by
  simp only [TableLine.render, List.mem_cons] at hx
  rcases hx with rfl | hx
  · exact .inr rfl
  induction widths with
  | nil => simp [borderCells] at hx
  | cons w ws ih =>
    simp only [borderCells, List.mem_append, List.mem_replicate, List.mem_cons] at hx
    rcases hx with ⟨-, rfl⟩ | rfl | hx
    exacts [.inl rfl, .inr rfl, ih hx]

/-- A border is one field. -/
theorem fields_border (widths : List Nat) :
    Go.fields (TableLine.border widths).render = [(TableLine.border widths).render] :=
  Go.fields_word (List.cons_ne_nil _ _) fun x hx => by
    rcases mem_border hx with rfl | rfl <;> decide

/-- The fields of a row whose key is a word: `|`, the key, `|`, the value's fields, `|`. -/
theorem fields_row {key value : List Char} (hk : IsWord key) (a b c d : Nat) :
    Go.fields (TableLine.row key value a b c d).render =
      ['|'] :: key :: ['|'] :: (Go.fields value ++ [['|']]) := by
  have hs : Go.isSpace ' ' = true := by decide
  have hbar : Go.isSpace '|' = false := by decide
  simp only [TableLine.render, blanks, Go.fields_cons_space hbar hs, Go.fields_replicate_append,
    Go.fields_append_space hs, Go.fields_word hk.1 hk.2,
    Go.fields_word (List.cons_ne_nil '|' []) (by simpa using hbar)]
  rfl

/-- No line holds a newline. -/
theorem newline_not_mem_render {l : TableLine} (hl : l.WellFormed) : '\n' ∉ l.render := by
  cases l with
  | border widths => exact fun h => by rcases mem_border h with h | h <;> cases h
  | row key value a b c d =>
    obtain ⟨hk, hv, -⟩ := hl
    have hk' : '\n' ∉ key := fun h => absurd (hk.2 _ h) (by decide)
    simp [TableLine.render, blanks, List.mem_replicate, hk', hv]

/-! ## The round trip -/

/-- The parser reads the value of the first row whose key is `id` from the lines of a table. -/
theorem volumeIDOfLines_render (lines : List TableLine) (h : ∀ l ∈ lines, l.WellFormed) :
    volumeIDOfLines (lines.map TableLine.render) =
      ((lines.filterMap TableLine.entry).lookup "id".toList).getD [] := by
  induction lines with
  | nil => rfl
  | cons l ls ih =>
    have ih := ih fun l' hl' => h l' (.tail _ hl')
    rw [List.map_cons, volumeIDOfLines]
    cases l with
    | border widths => rw [fields_border]; exact ih
    | row key value a b c d =>
      obtain ⟨hk, -, hid⟩ := h _ (.head _)
      have hentry : (TableLine.row key value a b c d :: ls).filterMap TableLine.entry =
          (key, value) :: ls.filterMap TableLine.entry := rfl
      rw [fields_row hk, hentry]
      by_cases hkey : key = "id".toList
      · subst hkey
        rw [Go.fields_word (hid rfl).1 (hid rfl).2]
        simp
      · -- a row with another key is skipped, whatever its value
        have hne : ("id".toList == key) = false := beq_eq_false_iff_ne.mpr (Ne.symm hkey)
        rw [List.lookup_cons, hne, ← ih]
        rcases Go.fields value with _ | ⟨x, _ | ⟨y, _ | ⟨z, zs⟩⟩⟩
        · rfl
        · exact if_neg hkey
        all_goals rfl

/-- The end-to-end driver's `CreateVolume` reads from any table that `cinder create` prints, whatever
its column widths, the value of the first row whose key is `id`, and the empty id when there is no
such row: on a table whose keys are words, whose values hold no newline, and whose `id` rows have a
value of one word. -/
theorem createVolumeID_table (lines : List TableLine) (h : ∀ l ∈ lines, l.WellFormed) :
    createVolumeID (String.mk (Go.join '\n' (lines.map TableLine.render))) =
      String.mk (((lines.filterMap TableLine.entry).lookup "id".toList).getD []) := by
  unfold createVolumeID
  congr 1
  cases lines with
  | nil => rfl
  | cons l ls =>
    have hnl : ∀ r ∈ (l :: ls).map TableLine.render, '\n' ∉ r := by
      simp only [List.mem_map]
      rintro _ ⟨l', hl', rfl⟩
      exact newline_not_mem_render (h l' hl')
    rw [show (String.mk _).toList = Go.join '\n' ((l :: ls).map TableLine.render) from rfl,
      Go.splitOn_join '\n' _ hnl (by simp)]
    exact volumeIDOfLines_render _ h

/-- The table of the driver's own example, with a border, the header, a description of several
words, and the id. -/
def sampleTable : List TableLine :=
  [.border [21, 38], .row "Property".toList "Value".toList 6 5 15 16, .border [21, 38],
    .row "description".toList "Created by e2e".toList 4 5 0 0,
    .row "id".toList "1d6ff08f-5d1c-41a4-ad72-4ef872cae685".toList 9 8 0 0, .border [21, 38]]

/-- On the example table, the parser reads the volume's id. -/
theorem createVolumeID_sample :
    (∀ l ∈ sampleTable, l.WellFormed) ∧
      createVolumeID (String.mk (Go.join '\n' (sampleTable.map TableLine.render))) =
        "1d6ff08f-5d1c-41a4-ad72-4ef872cae685" := by
  have h : ∀ l ∈ sampleTable, l.WellFormed := by decide
  exact ⟨h, (createVolumeID_table sampleTable h).trans rfl⟩

end CinderCsi.Test
