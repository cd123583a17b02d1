import Mathlib.Data.List.Basic

/-!
# The `strings` and `unicode` functions that the driver calls

A Go string is read here as its list of characters. The strings that the driver takes apart are
valid UTF-8 (the text output of `blkid`, a file that cloud-init wrote), and every separator that it
splits on is one ASCII character, so splitting characters and splitting bytes agree. `isSpace` is
`unicode.IsSpace`, `trimSpace` is `strings.TrimSpace`, and `join` is `strings.Join`; a
`strings.Split` with a one-character separator is `List.splitOn`.

`fields` is `strings.Fields`, the maximal runs of characters that are not spaces. `filepathClean`
and `filepathDir` are `path/filepath`'s `Clean` and `Dir`, over the elements between separators,
and `trimSuffix` is `strings.TrimSuffix`: k8s takes the parent of a mount point with them.

The lemmas are what a parser of `key=value` lines needs. Splitting a join at its separator gives
the pieces back (`splitOn_join`), a line splits at `=` into two parts exactly when it holds one
`=` (`splitOn_eq_pair_iff`), and trimming a join trims its outer pieces (`trimSpace_join`), which
leaves every piece that holds no space as it was (`filter_trimPieces`). For a table of blank-padded
cells, the fields of two texts joined at a space are the fields of each (`fields_append_space`),
and a word is its one field (`fields_word`). Without a `..` element, `filepath.Clean` keeps the
named elements of a path (`filepathClean_named`) and `filepath.Dir` all of them but the last
(`filepathDir_named`).
-/

namespace CinderCsi.Go

/-- `unicode.IsSpace`: in Latin-1, `'\t'`, `'\n'`, `'\v'`, `'\f'`, `'\r'`, `' '`, U+0085 and
U+00A0; above Latin-1, the other characters of Unicode's `White_Space` property. -/
def isSpace (c : Char) : Bool :=
  if c.toNat ≤ 0xFF then [0x09, 0x0A, 0x0B, 0x0C, 0x0D, 0x20, 0x85, 0xA0].contains c.toNat
  else [0x1680, 0x2028, 0x2029, 0x202F, 0x205F, 0x3000].contains c.toNat ||
    (0x2000 ≤ c.toNat && c.toNat ≤ 0x200A)

/-- `strings.TrimSpace`: the string without its leading and trailing spaces. -/
def trimSpace (s : List Char) : List Char :=
  ((s.dropWhile isSpace).reverse.dropWhile isSpace).reverse

/-- `strings.Join`: the pieces, with `sep` between each two of them. -/
def join (sep : Char) : List (List Char) → List Char
  | [] => []
  | [r] => r
  | r :: r' :: rs => r ++ sep :: join sep (r' :: rs)

@[simp] theorem join_nil (sep : Char) : join sep [] = [] := rfl

@[simp] theorem join_singleton (sep : Char) (r : List Char) : join sep [r] = r := rfl

@[simp] theorem join_cons_cons (sep : Char) (r r' : List Char) (rs : List (List Char)) :
    join sep (r :: r' :: rs) = r ++ sep :: join sep (r' :: rs) := rfl

/-! ## Splitting -/

/-- A join holds only the separator and what its pieces hold. -/
theorem mem_join (sep : Char) {x : Char} :
    ∀ {R : List (List Char)}, x ∈ join sep R → x = sep ∨ ∃ r ∈ R, x ∈ r
  | [], h => by simp at h
  | [r], h => .inr ⟨r, List.mem_singleton_self r, h⟩
  | r :: r' :: rs, h => by
    rw [join_cons_cons, List.mem_append, List.mem_cons] at h
    rcases h with h | rfl | h
    · exact .inr ⟨r, List.mem_cons_self _ _, h⟩
    · exact .inl rfl
    · rcases mem_join sep h with h | ⟨r'', hr, h⟩
      · exact .inl h
      · exact .inr ⟨r'', List.mem_cons_of_mem _ hr, h⟩

/-- A list without the separator splits into itself. -/
theorem splitOn_of_not_mem {c : Char} {l : List Char} (h : c ∉ l) : l.splitOn c = [l] :=
  List.splitOnP_eq_single _ _ fun _ hx he => h (beq_iff_eq.mp he ▸ hx)

/-- Splitting a join at its separator gives back the pieces, when no piece holds it. -/
theorem splitOn_join (sep : Char) :
    ∀ (R : List (List Char)), (∀ r ∈ R, sep ∉ r) → R ≠ [] → (join sep R).splitOn sep = R
  | [], _, h => absurd rfl h
  | [r], hR, _ => List.splitOnP_eq_single _ _ fun x hx h =>
      hR r (List.mem_singleton_self r) (by rwa [beq_iff_eq.mp h] at hx)
  | r :: r' :: rs, hR, _ => by
    have hr : ∀ x ∈ r, ¬(x == sep) = true := fun x hx h =>
      hR r (List.mem_cons_self _ _) (by rwa [beq_iff_eq.mp h] at hx)
    rw [join_cons_cons, List.splitOn, List.splitOnP_first _ _ hr _ (beq_self_eq_true sep)]
    exact congrArg (r :: ·)
      (splitOn_join sep (r' :: rs) (fun x hx => hR x (List.mem_cons_of_mem _ hx)) (by simp))

/-- No piece of a split holds the separator. -/
theorem not_mem_of_mem_splitOn (c : Char) :
    ∀ (l : List Char), ∀ r ∈ l.splitOn c, c ∉ r
  | [] => by simp [List.splitOn_nil]
  | x :: xs => by
    have ih := not_mem_of_mem_splitOn c xs
    simp only [List.splitOn, List.splitOnP_cons] at ih ⊢
    split
    · intro r hr
      rcases List.mem_cons.mp hr with rfl | hr
      · simp
      · exact ih r hr
    · rename_i hx
      cases he : List.splitOnP (· == c) xs with
      | nil => exact absurd he (List.splitOnP_ne_nil _ xs)
      | cons h t =>
        rw [he] at ih
        intro r hr
        rcases List.mem_cons.mp hr with rfl | hr
        · simp only [List.mem_cons, not_or]
          exact ⟨fun h' => hx (by simp [h']), ih _ (List.mem_cons_self _ _)⟩
        · exact ih r (List.mem_cons_of_mem _ hr)

/-- Every piece of a split holds only what the list holds. -/
theorem subset_of_mem_splitOn (c : Char) : ∀ (l : List Char), ∀ r ∈ l.splitOn c, r ⊆ l
  | [] => by simp [List.splitOn_nil]
  | x :: xs => by
    have ih := subset_of_mem_splitOn c xs
    simp only [List.splitOn, List.splitOnP_cons] at ih ⊢
    split
    · intro r hr
      rcases List.mem_cons.mp hr with rfl | hr
      · exact List.nil_subset _
      · exact List.subset_cons_of_subset _ (ih r hr)
    · cases he : List.splitOnP (· == c) xs with
      | nil => exact absurd he (List.splitOnP_ne_nil _ xs)
      | cons h t =>
        rw [he] at ih
        intro r hr
        rcases List.mem_cons.mp hr with rfl | hr
        · exact List.cons_subset_cons x (ih _ (List.mem_cons_self _ _))
        · exact List.subset_cons_of_subset _ (ih r (List.mem_cons_of_mem _ hr))

/-- A line splits at `c` into two parts `k` and `v` exactly when it is `k`, `c`, `v`, with no
other `c`. -/
theorem splitOn_eq_pair_iff (c : Char) (l k v : List Char) :
    l.splitOn c = [k, v] ↔ l = k ++ c :: v ∧ c ∉ k ∧ c ∉ v := by
  constructor
  · intro h
    have hm := not_mem_of_mem_splitOn c l
    rw [h] at hm
    refine ⟨?_, hm k (by simp), hm v (by simp)⟩
    have := List.intercalate_splitOn l c
    rw [h] at this
    simpa [List.intercalate] using this.symm
  · rintro ⟨rfl, hk, hv⟩
    exact splitOn_join c [k, v] (by simp [hk, hv]) (by simp)

/-! ## Trimming -/

/-- The pieces after `dropWhile isSpace` of their join: the leading pieces that are all spaces go,
and the first other piece loses its leading spaces. -/
def dropLeading : List (List Char) → List (List Char)
  | [] => []
  | r :: rs => if r.all isSpace then dropLeading rs else r.dropWhile isSpace :: rs

/-- The pieces of a trimmed join: `dropLeading` at both ends. -/
def trimPieces (R : List (List Char)) : List (List Char) :=
  ((dropLeading ((dropLeading R).map List.reverse).reverse).map List.reverse).reverse

theorem join_append_singleton (sep : Char) (b : List Char) :
    ∀ (R : List (List Char)), R ≠ [] → join sep (R ++ [b]) = join sep R ++ sep :: b
  | [], h => absurd rfl h
  | [_], _ => rfl
  | r :: r' :: rs, _ => by
    show r ++ sep :: join sep ((r' :: rs) ++ [b]) = _
    rw [join_append_singleton sep b (r' :: rs) (by simp)]
    simp

/-- Reversing a join joins the reversed pieces in the reverse order. -/
theorem reverse_join (sep : Char) :
    ∀ (R : List (List Char)), (join sep R).reverse = join sep (R.map List.reverse).reverse
  | [] => rfl
  | [_] => rfl
  | r :: r' :: rs => by
    calc (join sep (r :: r' :: rs)).reverse
        = (join sep (r' :: rs)).reverse ++ sep :: r.reverse := by simp
      _ = join sep (((r' :: rs).map List.reverse).reverse ++ [r.reverse]) := by
        rw [reverse_join sep (r' :: rs), join_append_singleton _ _ _ (by simp)]
      _ = join sep ((r :: r' :: rs).map List.reverse).reverse := by simp

/-- Dropping the leading spaces of a join drops them piece by piece, when the separator is a
space. -/
theorem dropWhile_join (sep : Char) (hsep : isSpace sep = true) :
    ∀ (R : List (List Char)), (join sep R).dropWhile isSpace = join sep (dropLeading R)
  | [] => rfl
  | [r] => by
    by_cases h : r.all isSpace
    · simp [dropLeading, h, List.dropWhile_eq_nil_iff.mpr (by simpa using h)]
    · simp [dropLeading, h]
  | r :: r' :: rs => by
    by_cases h : r.all isSpace
    · rw [join_cons_cons, List.dropWhile_append_of_pos (by simpa using h), List.dropWhile_cons,
        if_pos hsep, dropWhile_join sep hsep (r' :: rs)]
      simp only [dropLeading, h, if_true]
    · have hne : (r.dropWhile isSpace).isEmpty = false := by
        simpa [List.dropWhile_eq_nil_iff] using h
      rw [join_cons_cons, List.dropWhile_append, hne, dropLeading, if_neg h]
      simp

/-- Trimming a join trims its pieces, when the separator is a space. -/
theorem trimSpace_join (sep : Char) (hsep : isSpace sep = true) (R : List (List Char)) :
    trimSpace (join sep R) = join sep (trimPieces R) := by
  rw [trimSpace, dropWhile_join sep hsep, reverse_join, dropWhile_join sep hsep, reverse_join,
    trimPieces]

/-- White space at the end does not change what is trimmed. -/
theorem trimSpace_append_space {l t : List Char} (ht : ∀ c ∈ t, isSpace c = true) :
    trimSpace (l ++ t) = trimSpace l := by
  unfold trimSpace
  rw [List.dropWhile_append]
  split
  · rename_i h
    rw [List.isEmpty_iff.mp h, List.dropWhile_eq_nil_iff.mpr ht]
  · rw [List.reverse_append, List.dropWhile_append_of_pos (by simpa using ht)]

/-- `dropLeading` keeps each piece that holds a character `c` other than a space, when such pieces
hold no space at all. -/
theorem filter_dropLeading (c : Char) (hc : isSpace c = false) :
    ∀ (R : List (List Char)), (∀ r ∈ R, c ∈ r → ∀ x ∈ r, isSpace x = false) →
      (dropLeading R).filter (fun r => c ∈ r) = R.filter (fun r => c ∈ r)
  | [], _ => rfl
  | r :: rs, hR => by
    have ih := filter_dropLeading c hc rs fun r' h => hR r' (List.mem_cons_of_mem _ h)
    by_cases hs : r.all isSpace
    · have : c ∉ r := fun h => by simp [List.all_eq_true.mp hs c h] at hc
      simp [dropLeading, hs, ih, this]
    · by_cases hcr : c ∈ r
      · have hd : r.dropWhile isSpace = r := by
          cases r with
          | nil => simp at hcr
          | cons x xs => simp [hR _ (List.mem_cons_self _ _) hcr x (List.mem_cons_self _ _)]
        simp [dropLeading, hs, hd]
      · have : c ∉ r.dropWhile isSpace := fun h => hcr ((List.dropWhile_suffix _).subset h)
        simp [dropLeading, hs, hcr, this]

/-- No piece of `dropLeading R` holds a character that no piece of `R` holds. -/
theorem not_mem_of_mem_dropLeading (x : Char) :
    ∀ (R : List (List Char)), (∀ r ∈ R, x ∉ r) → ∀ r ∈ dropLeading R, x ∉ r
  | [], _ => by simp [dropLeading]
  | r :: rs, hR => by
    have ih := not_mem_of_mem_dropLeading x rs fun r' h => hR r' (List.mem_cons_of_mem _ h)
    by_cases hs : r.all isSpace
    · simpa [dropLeading, hs] using ih
    · simp only [dropLeading, hs, Bool.false_eq_true, if_false, List.mem_cons]
      rintro r' (rfl | h)
      · exact fun hx => hR r (List.mem_cons_self _ _) ((List.dropWhile_suffix _).subset hx)
      · exact hR r' (List.mem_cons_of_mem _ h)

/-- Trimming keeps each piece that holds a character `c` other than a space, when such pieces
hold no space at all. -/
theorem filter_trimPieces (c : Char) (hc : isSpace c = false) (R : List (List Char))
    (hR : ∀ r ∈ R, c ∈ r → ∀ x ∈ r, isSpace x = false) :
    (trimPieces R).filter (fun r => c ∈ r) = R.filter (fun r => c ∈ r) := by
  have hrev : ∀ S : List (List Char), ((S.map List.reverse).reverse).filter (fun r => c ∈ r) =
      ((S.filter (fun r => c ∈ r)).map List.reverse).reverse := by
    intro S
    rw [List.filter_reverse, List.filter_map]
    simp [Function.comp_def]
  have h1 := filter_dropLeading c hc R hR
  have h2 : ∀ r ∈ ((dropLeading R).map List.reverse).reverse, c ∈ r →
      ∀ x ∈ r, isSpace x = false := by
    simp only [List.mem_reverse, List.mem_map]
    rintro _ ⟨r, hr, rfl⟩ hcr x hx
    have hf : r ∈ R.filter (fun r => c ∈ r) := by
      rw [← h1, List.mem_filter]; exact ⟨hr, by simpa using hcr⟩
    exact hR r (List.mem_filter.mp hf).1 (by simpa using (List.mem_filter.mp hf).2) x
      (by simpa using hx)
  rw [trimPieces, hrev, filter_dropLeading c hc _ h2, hrev, h1, List.map_reverse,
    List.reverse_reverse, List.map_map]
  simp [Function.comp_def]

/-- No piece of a trimmed join holds a character that no piece of the join holds. -/
theorem not_mem_of_mem_trimPieces (x : Char) (R : List (List Char)) (hR : ∀ r ∈ R, x ∉ r) :
    ∀ r ∈ trimPieces R, x ∉ r := by
  have hrev : ∀ S : List (List Char), (∀ r ∈ S, x ∉ r) →
      ∀ r ∈ (S.map List.reverse).reverse, x ∉ r := by
    intro S hS r hr
    obtain ⟨r', hr', rfl⟩ := List.mem_map.mp (List.mem_reverse.mp hr)
    simpa using hS r' hr'
  exact hrev _ (not_mem_of_mem_dropLeading x _
    (hrev _ (not_mem_of_mem_dropLeading x R hR)))

/-! ## Fields -/

/-- `strings.Fields` with a word already begun: the maximal runs of characters that are not
spaces, in order. -/
def fieldsFrom : List Char → List Char → List (List Char)
  | word, [] => if word = [] then [] else [word]
  | word, c :: cs =>
    if isSpace c then (if word = [] then [] else [word]) ++ fieldsFrom [] cs
    else fieldsFrom (word ++ [c]) cs

/-- `strings.Fields`: the maximal runs of characters that are not spaces, in order. -/
def fields (s : List Char) : List (List Char) := fieldsFrom [] s

@[simp] theorem fields_nil : fields [] = [] := rfl

/-- A space ends the word before it: the fields of the text on either side are the fields of the
whole. -/
theorem fieldsFrom_append_space {c : Char} (hc : isSpace c = true) (b : List Char) :
    ∀ (w a : List Char), fieldsFrom w (a ++ c :: b) = fieldsFrom w a ++ fields b
  | w, [] => by simp [fieldsFrom, hc, fields]
  | w, x :: a => by
    by_cases hx : isSpace x = true
    · simp [fieldsFrom, hx, fieldsFrom_append_space hc b [] a]
    · simp [fieldsFrom, hx, fieldsFrom_append_space hc b (w ++ [x]) a]

/-- The fields of two texts joined at a space. -/
theorem fields_append_space {c : Char} (hc : isSpace c = true) (a b : List Char) :
    fields (a ++ c :: b) = fields a ++ fields b :=
  fieldsFrom_append_space hc b [] a

/-- Leading blanks do not change the fields. -/
theorem fields_replicate_append (n : Nat) (b : List Char) :
    fields (List.replicate n ' ' ++ b) = fields b := by
  induction n with
  | zero => rfl
  | succ n ih =>
    rw [List.replicate_succ, List.cons_append, ← List.nil_append (' ' :: _),
      fields_append_space (by decide), ih, fields_nil, List.nil_append]

/-- A word already begun goes on through characters that are not spaces. -/
theorem fieldsFrom_word : ∀ (w a : List Char), (∀ x ∈ a, isSpace x = false) →
    fieldsFrom w a = if w ++ a = [] then [] else [w ++ a]
  | w, [], _ => by simp [fieldsFrom]
  | w, x :: a, h => by
    have hx : isSpace x = false := h x (List.mem_cons_self _ _)
    rw [fieldsFrom, if_neg (by simp [hx]),
      fieldsFrom_word (w ++ [x]) a fun y hy => h y (List.mem_cons_of_mem _ hy)]
    simp

/-- A word, with no space in it, is its one field. -/
theorem fields_word {a : List Char} (hne : a ≠ []) (h : ∀ x ∈ a, isSpace x = false) :
    fields a = [a] := by
  simp [fields, fieldsFrom_word [] a h, hne]

/-- A character that is not a space, then a space, is a field of its own. -/
theorem fields_cons_space {x c : Char} (hx : isSpace x = false) (hc : isSpace c = true)
    (b : List Char) : fields (x :: c :: b) = [x] :: fields b := by
  have h := fields_append_space hc [x] b
  rwa [fields_word (List.cons_ne_nil _ _) (by simpa using hx)] at h

/-! ## Paths -/

/-- `strings.TrimSuffix`: the string without the suffix, when it ends with it. -/
def trimSuffix (s suffix : List Char) : List Char :=
  if suffix.isSuffixOf s then s.take (s.length - suffix.length) else s

/-- Whether an element of a path names a file: it is neither empty nor `.`. -/
def isNamed (e : List Char) : Bool := e ≠ [] ∧ e ≠ ['.']

/-- One element of `filepath.Clean`'s scan onto the elements kept so far, last first: an empty
element and `.` go; `..` takes the element before it back with it, goes at the root, and is kept
at the start of a relative path. -/
def cleanStep (rooted : Bool) (out : List (List Char)) (e : List Char) : List (List Char) :=
  if !isNamed e then out
  else if e = ['.', '.'] then
    match out with
    | d :: out' => if d = ['.', '.'] then e :: out else out'
    | [] => if rooted then [] else [e]
  else e :: out

/-- `filepath.Clean`: the path by lexical processing, with single separators, no `.` element, and
no `..` after a name or at the root; `.` when a relative path comes out empty. -/
def filepathClean (path : List Char) : List Char :=
  let rooted := path.head? == some '/'
  let elems := ((path.splitOn '/').foldl (cleanStep rooted) []).reverse
  if rooted then '/' :: join '/' elems
  else if elems = [] then ['.'] else join '/' elems

/-- `filepath.Dir`: the path up to and with its last separator, cleaned. -/
def filepathDir (path : List Char) : List Char :=
  filepathClean (path.reverse.dropWhile (· ≠ '/')).reverse

/-- `strings.Join` is `intercalate`. -/
theorem join_eq_intercalate (sep : Char) : ∀ R : List (List Char), join sep R = [sep].intercalate R
  | [] => rfl
  | [_] => by simp [List.intercalate]
  | r :: r' :: rs => by
    rw [join_cons_cons, join_eq_intercalate sep (r' :: rs)]
    simp [List.intercalate]

/-- Joining the pieces of a split gives the list back. -/
theorem join_splitOn (sep : Char) (l : List Char) : join sep (l.splitOn sep) = l := by
  rw [join_eq_intercalate, List.intercalate_splitOn]

/-- A trailing separator splits off one empty piece. -/
theorem splitOn_append_sep (sep : Char) (l : List Char) :
    (l ++ [sep]).splitOn sep = l.splitOn sep ++ [[]] := by
  have hne : l.splitOn sep ≠ [] := List.splitOnP_ne_nil _ _
  conv_lhs => rw [← join_splitOn sep l, ← join_append_singleton sep [] _ hne]
  refine splitOn_join sep _ (fun r hr => ?_) (by simp)
  rcases List.mem_append.mp hr with hr | hr
  · exact not_mem_of_mem_splitOn sep l r hr
  · rw [List.mem_singleton.mp hr]
    exact List.not_mem_nil _

/-- Trimming one trailing separator keeps the named elements, and drops at most an empty last
element. -/
theorem splitOn_trimSuffix (sep : Char) (l : List Char) :
    ((trimSuffix l [sep]).splitOn sep).filter isNamed = (l.splitOn sep).filter isNamed ∧
      (trimSuffix l [sep]).splitOn sep ⊆ l.splitOn sep := by
  unfold trimSuffix
  split_ifs with h
  · obtain ⟨t, rfl⟩ := List.isSuffixOf_iff_suffix.mp h
    rw [List.length_append, List.length_singleton, Nat.add_sub_cancel, List.take_left,
      splitOn_append_sep, List.filter_append]
    exact ⟨by simp [isNamed], List.subset_append_left _ _⟩
  · exact ⟨rfl, List.Subset.refl _⟩

/-- Without `..`, `filepath.Clean`'s scan keeps exactly the named elements. -/
theorem foldl_cleanStep (rooted : Bool) :
    ∀ (es out : List (List Char)), ['.', '.'] ∉ es →
      es.foldl (cleanStep rooted) out = (es.filter isNamed).reverse ++ out
  | [], _, _ => rfl
  | e :: es, out, h => by
    have he : e ≠ ['.', '.'] := fun he => h (he ▸ List.mem_cons_self _ _)
    have ih := foldl_cleanStep rooted es
    rw [List.foldl_cons, List.filter_cons]
    by_cases hn : isNamed e
    · have hstep : cleanStep rooted out e = e :: out := by simp [cleanStep, hn, he]
      rw [hstep, ih _ fun h' => h (List.mem_cons_of_mem _ h'), if_pos hn]
      simp
    · have hstep : cleanStep rooted out e = out := by simp [cleanStep, hn]
      rw [hstep, ih _ fun h' => h (List.mem_cons_of_mem _ h'), if_neg hn]

/-- Without `..`, a cleaned path is not empty and has the path's named elements. -/
theorem filepathClean_named (l : List Char) (h : ['.', '.'] ∉ l.splitOn '/') :
    ((filepathClean l).splitOn '/').filter isNamed = (l.splitOn '/').filter isNamed ∧
      filepathClean l ≠ [] := by
  have hsep : ∀ r ∈ (l.splitOn '/').filter isNamed, '/' ∉ r :=
    fun r hr => not_mem_of_mem_splitOn '/' l r (List.mem_filter.mp hr).1
  have hfilter : ((l.splitOn '/').filter isNamed).filter isNamed = (l.splitOn '/').filter isNamed :=
    List.filter_eq_self.mpr fun r hr => (List.mem_filter.mp hr).2
  unfold filepathClean
  simp only [foldl_cleanStep _ _ [] h, List.append_nil, List.reverse_reverse]
  generalize hE : (l.splitOn '/').filter isNamed = elems at hsep hfilter ⊢
  split_ifs with hr he
  · cases elems with
    | nil => exact ⟨rfl, List.cons_ne_nil _ _⟩
    | cons e es =>
      refine ⟨?_, List.cons_ne_nil _ _⟩
      rw [show '/' :: join '/' (e :: es) = join '/' ([] :: e :: es) from rfl,
        splitOn_join '/' _ (by simpa using hsep) (List.cons_ne_nil _ _), List.filter_cons,
        if_neg (by decide), hfilter]
  · subst he; exact ⟨rfl, List.cons_ne_nil _ _⟩
  · have h1 := splitOn_join '/' _ hsep he
    refine ⟨by rw [h1, hfilter], fun h0 => ?_⟩
    rw [h0, List.splitOn_nil] at h1
    rw [← h1] at hfilter
    exact absurd hfilter (by decide)

/-- The part of a path up to and with its last separator splits into the path's elements but the
last, and an empty one after them. -/
theorem splitOn_dirPart (l : List Char) :
    (l.reverse.dropWhile (· ≠ '/')).reverse.splitOn '/' = (l.splitOn '/').dropLast ++ [[]] := by
  have hne : l.splitOn '/' ≠ [] := List.splitOnP_ne_nil _ _
  have hsep : ∀ r ∈ l.splitOn '/', '/' ∉ r := not_mem_of_mem_splitOn '/' l
  have hlast := List.dropLast_append_getLast hne
  generalize (l.splitOn '/').getLast hne = last at hlast
  generalize (l.splitOn '/').dropLast = init at hlast ⊢
  have hl : l = join '/' (init ++ [last]) := by rw [hlast, join_splitOn]
  have hinit : ∀ r ∈ init, '/' ∉ r := fun r hr => hsep r (hlast ▸ List.mem_append_left _ hr)
  -- the scan from the end passes over the last element, which holds no separator
  have hall : ∀ c ∈ last.reverse, decide (c ≠ '/') = true := fun c hc =>
    decide_eq_true fun h => hsep last (hlast ▸ List.mem_append_right _ (List.mem_singleton_self _))
      (h ▸ List.mem_reverse.mp hc)
  subst hl
  by_cases h0 : init = []
  · subst h0
    rw [List.nil_append, join_singleton, ← List.append_nil last.reverse,
      List.dropWhile_append_of_pos hall]
    rfl
  · rw [join_append_singleton _ _ _ h0, List.reverse_append, List.reverse_cons, List.append_assoc,
      List.singleton_append, List.dropWhile_append_of_pos hall, List.dropWhile_cons_of_neg (by simp),
      List.reverse_cons, List.reverse_reverse, splitOn_append_sep, splitOn_join '/' _ hinit h0]

/-- Without `..`, `filepath.Dir` of a path is not empty and has the path's named elements but the
last one. -/
theorem filepathDir_named (l : List Char) (h : ['.', '.'] ∉ l.splitOn '/') :
    ((filepathDir l).splitOn '/').filter isNamed = ((l.splitOn '/').dropLast).filter isNamed ∧
      filepathDir l ≠ [] := by
  have hpre := splitOn_dirPart l
  have h' : ['.', '.'] ∉ (l.reverse.dropWhile (· ≠ '/')).reverse.splitOn '/' := by
    rw [hpre]
    intro hm
    rcases List.mem_append.mp hm with hm | hm
    · exact h (List.dropLast_subset _ hm)
    · simp at hm
  obtain ⟨hf, hne⟩ := filepathClean_named _ h'
  refine ⟨?_, hne⟩
  rw [filepathDir, hf, hpre, List.filter_append]
  simp [isNamed]

end CinderCsi.Go
