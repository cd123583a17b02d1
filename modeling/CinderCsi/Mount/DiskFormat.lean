import CinderCsi.Go.Strings

/-!
# What `blkid` says about a disk

`Mount.GetDiskFormat` (`pkg/csi/cinder/mount/mount.go`) runs `blkid -p -s TYPE -s PTTYPE -o
export` on a disk. Exit status 2 means no signature was found: the disk is unformatted. Otherwise
it trims the output, splits it into lines (or, when there is one line, at spaces, which is how
busybox prints it), and reads every line that is one `KEY=VALUE` pair: `TYPE` is the filesystem,
without its double quotes, and a non-empty `PTTYPE` makes it answer a sentinel that keeps the
caller from formatting a partitioned disk.

`tokensDiskFormat` is what the answer should be for a list of tokens, pairs and words, printed one
per line or on one line with single spaces. `getDiskFormat_blkidOutput` proves the parser gives
it when the tokens are in the format: values free of `=` and white space, no word with `=`, no token with a
newline or the separator, keys pairwise distinct, and keys free of white space. The last is needed:
the trimming of the whole output and the split at spaces of a single line both cut into a key with
white space. The proof follows the data: the trimmed output is the join of trimmed tokens
(`trimSpace_join`), the lines hold the same `=`-tokens as the tokens do (`filter_splitLines`),
lines without `=` change nothing (`foldl_scanLine_filter`), and each pair sets what its key names
(`scanLine_pair`). `getDiskFormat_tokens` adds exit status 2, white space after the output, such as
the newline that ends it (`getDiskFormat_append_space`), and that a non-empty `PTTYPE` or a `TYPE`
with a character other than a double quote is never read as unformatted.
-/

namespace CinderCsi.Mount

open CinderCsi.Go

/-! ## The parser -/

/-- How running `blkid` failed: with an exit status, or otherwise. -/
inductive RunError where
  /-- `utilexec.ExitError` with its exit status. -/
  | exitError (status : Nat)
  /-- Any other error of `Exec.Run`. -/
  | other (msg : String)
deriving DecidableEq, Repr

/-- One line of the loop, from the `TYPE` and `PTTYPE` found so far: a non-empty line that splits
at `=` into exactly two parts sets the value its key names; `TYPE` loses its double quotes. -/
def scanLine (acc : List Char × List Char) (l : List Char) : List Char × List Char :=
  if l.length ≤ 0 then acc
  else
    match l.splitOn '=' with
    | [k, v] =>
      if k = "TYPE".toList then (v.filter (· ≠ '"'), acc.2)
      else if k = "PTTYPE".toList then (acc.1, v)
      else acc
    | _ => acc

/-- The lines of the output: split at newlines, or at spaces when that gives one line. -/
def splitLines (output : List Char) : List (List Char) :=
  let lines := output.splitOn '\n'
  if lines.length = 1 then output.splitOn ' ' else lines

/-- `Mount.GetDiskFormat`, from what running `blkid` gave: its output and its error. -/
def getDiskFormat (dataOut : String) (err : Option RunError) : String × Option RunError :=
  let output := trimSpace dataOut.toList
  match err with
  | some (.exitError 2) => ("", none)
  | some err => ("", some err)
  | none =>
    match (splitLines output).foldl scanLine ([], []) with
    | (fstype, pttype) =>
      if pttype.length > 0 then ("unknown data, probably partitions", none)
      else (String.mk fstype, none)

/-! ## Token lists -/

/-- A token of `blkid`'s export output: a `KEY=VALUE` pair, or a word without `=`. -/
inductive Token where
  /-- `KEY=VALUE`. -/
  | pair (key value : List Char)
  /-- Anything else. -/
  | word (w : List Char)
deriving DecidableEq, Repr

/-- How a token is printed. -/
def Token.render : Token → List Char
  | .pair k v => k ++ '=' :: v
  | .word w => w

/-- A pair's key. -/
def Token.key? : Token → Option (List Char)
  | .pair k _ => some k
  | .word _ => none

/-- The value of a pair with the given key. -/
def Token.valueOf (key : List Char) : Token → Option (List Char)
  | .pair k v => if k = key then some v else none
  | .word _ => none

/-- The output that prints the tokens with a separator between each two. -/
def blkidOutput (sep : Char) (ts : List Token) : String :=
  String.mk (join sep (ts.map Token.render))

/-- Tokens printed one per line, or on one line with single spaces: values free of `=` and white
space, words free of `=`, no token holding a newline or the separator, pairwise distinct keys,
and keys free of white space. -/
structure TokenFormat (sep : Char) (ts : List Token) : Prop where
  /-- The separator is a newline or a space. -/
  sep_eq : sep = '\n' ∨ sep = ' '
  /-- A pair's key and value hold no white space, and its value no `=`. -/
  pair_ok : ∀ k v, Token.pair k v ∈ ts →
    (∀ c ∈ k, isSpace c = false) ∧ (∀ c ∈ v, isSpace c = false) ∧ '=' ∉ v
  /-- A word holds no `=`, no newline and no separator. -/
  word_ok : ∀ w, Token.word w ∈ ts → '=' ∉ w ∧ '\n' ∉ w ∧ sep ∉ w
  /-- No key is used twice. -/
  keys_nodup : (ts.filterMap Token.key?).Nodup

/-- What the tokens say about the disk: the partition sentinel when `PTTYPE` is not empty, else
the `TYPE` value without double quotes, else nothing. -/
def tokensDiskFormat (ts : List Token) : String :=
  match ts.findSome? (Token.valueOf "PTTYPE".toList) with
  | some (_ :: _) => "unknown data, probably partitions"
  | _ =>
    match ts.findSome? (Token.valueOf "TYPE".toList) with
    | some v => String.mk (v.filter (· ≠ '"'))
    | none => ""

/-! ## Lines -/

/-- A line without `=` changes nothing. -/
theorem scanLine_of_not_mem {l : List Char} (h : '=' ∉ l) (acc : List Char × List Char) :
    scanLine acc l = acc := by
  unfold scanLine
  split_ifs
  · rfl
  · rw [splitOn_of_not_mem h]

/-- A printed pair sets the value its key names, and nothing else; a key with `=` names none. -/
theorem scanLine_pair {k v : List Char} (hv : '=' ∉ v) (acc : List Char × List Char) :
    scanLine acc (k ++ '=' :: v) =
      if k = "TYPE".toList then (v.filter (· ≠ '"'), acc.2)
      else if k = "PTTYPE".toList then (acc.1, v)
      else acc := by
  by_cases hk : '=' ∈ k
  · have hT : k ≠ "TYPE".toList := by rintro rfl; exact absurd hk (by decide)
    have hP : k ≠ "PTTYPE".toList := by rintro rfl; exact absurd hk (by decide)
    rw [if_neg hT, if_neg hP]
    unfold scanLine
    split_ifs
    · rfl
    · split
      · rename_i k' v' hs
        obtain ⟨heq, hk', hv'⟩ := (splitOn_eq_pair_iff _ _ _ _).mp hs
        have hc := congrArg (List.count '=') heq
        have hpos := List.count_pos_iff.mpr hk
        simp only [List.count_append, List.count_cons_self, List.count_eq_zero_of_not_mem hv,
          List.count_eq_zero_of_not_mem hk', List.count_eq_zero_of_not_mem hv'] at hc
        omega
      · rfl
  · unfold scanLine
    rw [if_neg (by simp), (splitOn_eq_pair_iff _ _ _ _).mpr ⟨rfl, hk, hv⟩]

/-- The loop reads only the lines with `=`. -/
theorem foldl_scanLine_filter :
    ∀ (lines : List (List Char)) (acc : List Char × List Char),
      lines.foldl scanLine acc = (lines.filter fun r => '=' ∈ r).foldl scanLine acc
  | [], _ => rfl
  | l :: ls, acc => by
    by_cases h : '=' ∈ l
    · rw [List.filter_cons_of_pos (by simpa using h), List.foldl_cons, List.foldl_cons,
        foldl_scanLine_filter ls]
    · rw [List.filter_cons_of_neg (by simpa using h), List.foldl_cons, scanLine_of_not_mem h,
        foldl_scanLine_filter ls]

/-- A line splits at spaces into pieces with the same `=`-pieces, when a line with `=` holds no
white space. -/
theorem filter_splitOn_space (r : List Char) (hr : '=' ∈ r → ∀ x ∈ r, isSpace x = false) :
    (r.splitOn ' ').filter (fun p => '=' ∈ p) = [r].filter (fun p => '=' ∈ p) := by
  by_cases h : '=' ∈ r
  · rw [splitOn_of_not_mem fun hs => absurd (hr h ' ' hs) (by decide)]
  · have h1 : [r].filter (fun p => '=' ∈ p) = [] := by simp [h]
    have h2 : (r.splitOn ' ').filter (fun p => '=' ∈ p) = [] := List.filter_eq_nil_iff.mpr
      fun p hp hq => h (subset_of_mem_splitOn ' ' r p hp (by simpa using hq))
    rw [h1, h2]

/-- The lines of a join of pieces without newlines or separators hold the same `=`-pieces as the
pieces, when a piece with `=` holds no white space. -/
theorem filter_splitLines {sep : Char} (hsep : sep = '\n' ∨ sep = ' ') (R : List (List Char))
    (hnl : ∀ r ∈ R, '\n' ∉ r) (hs : ∀ r ∈ R, sep ∉ r)
    (hR : ∀ r ∈ R, '=' ∈ r → ∀ x ∈ r, isSpace x = false) :
    (splitLines (join sep R)).filter (fun r => '=' ∈ r) = R.filter (fun r => '=' ∈ r) := by
  by_cases hne : R = []
  · subst hne; rfl
  unfold splitLines
  rcases hsep with rfl | rfl
  · rw [splitOn_join _ R hnl hne]
    dsimp only
    split_ifs with h1
    · obtain ⟨r, rfl⟩ := List.length_eq_one.mp h1
      exact filter_splitOn_space r (hR r (List.mem_singleton_self r))
    · rfl
  · have hj : '\n' ∉ join ' ' R := fun h => by
      rcases mem_join ' ' h with h | ⟨r, hr, h⟩
      · exact absurd h (by decide)
      · exact hnl r hr h
    rw [splitOn_of_not_mem hj]
    dsimp only
    rw [if_pos (List.length_singleton _), splitOn_join _ R hs hne]

/-! ## Tokens -/

/-- A key that no token has is not found. -/
theorem findSome?_valueOf_of_not_mem {key : List Char} :
    ∀ {ts : List Token}, key ∉ ts.filterMap Token.key? → ts.findSome? (Token.valueOf key) = none
  | [], _ => rfl
  | .word _ :: ts, h => by
    simpa [List.findSome?_cons, Token.valueOf] using @findSome?_valueOf_of_not_mem key ts h
  | .pair k _ :: ts, h => by
    simp only [List.filterMap_cons, Token.key?, List.mem_cons, not_or] at h
    simp [List.findSome?_cons, Token.valueOf, Ne.symm h.1, findSome?_valueOf_of_not_mem h.2]

/-- The loop over the printed tokens, with their lines without `=` left out, ends with the
`TYPE` value without quotes and the `PTTYPE` value when the tokens have them. -/
theorem foldl_scanLine_tokens :
    ∀ (ts : List Token) (acc : List Char × List Char),
      (∀ k v, Token.pair k v ∈ ts → '=' ∉ v) → (∀ w, Token.word w ∈ ts → '=' ∉ w) →
      (ts.filterMap Token.key?).Nodup →
      ((ts.map Token.render).filter fun r => '=' ∈ r).foldl scanLine acc =
        (((ts.findSome? (Token.valueOf "TYPE".toList)).map (·.filter (· ≠ '"'))).getD acc.1,
          (ts.findSome? (Token.valueOf "PTTYPE".toList)).getD acc.2)
  | [], _, _, _, _ => rfl
  | .word w :: ts, acc, hp, hw, hn => by
    have hw' : ¬ '=' ∈ w := hw w (List.mem_cons_self _ _)
    rw [List.map_cons, Token.render, List.filter_cons, if_neg (by simpa using hw')]
    simp only [List.findSome?_cons, Token.valueOf]
    exact foldl_scanLine_tokens ts acc (fun k v h => hp k v (List.mem_cons_of_mem _ h))
      (fun w h => hw w (List.mem_cons_of_mem _ h)) (by simpa [Token.key?] using hn)
  | .pair k v :: ts, acc, hp, hw, hn => by
    have hv : '=' ∉ v := hp k v (List.mem_cons_self _ _)
    simp only [List.filterMap_cons, Token.key?, List.nodup_cons] at hn
    have ih := fun acc => foldl_scanLine_tokens ts acc
      (fun k v h => hp k v (List.mem_cons_of_mem _ h)) (fun w h => hw w (List.mem_cons_of_mem _ h))
      hn.2
    rw [List.map_cons, Token.render, List.filter_cons, if_pos (by simp), List.foldl_cons,
      scanLine_pair hv]
    simp only [List.findSome?_cons, Token.valueOf]
    by_cases hT : k = "TYPE".toList
    · subst hT
      rw [if_pos rfl, ih, findSome?_valueOf_of_not_mem hn.1]
      simp
    · by_cases hP : k = "PTTYPE".toList
      · subst hP
        rw [if_neg hT, if_pos rfl, ih, findSome?_valueOf_of_not_mem hn.1]
        simp
      · rw [if_neg hT, if_neg hP, ih]
        simp only [hT, hP, ↓reduceIte]

/-- With distinct keys, a pair of the list is what its key finds. -/
theorem findSome?_valueOf_of_mem {key v : List Char} :
    ∀ {ts : List Token}, (ts.filterMap Token.key?).Nodup → Token.pair key v ∈ ts →
      ts.findSome? (Token.valueOf key) = some v
  | [], _, h => absurd h (List.not_mem_nil _)
  | t :: ts, hn, h => by
    rcases List.mem_cons.mp h with rfl | hmem
    · simp [List.findSome?_cons, Token.valueOf]
    · have hk : key ∈ ts.filterMap Token.key? := List.mem_filterMap.mpr ⟨_, hmem, rfl⟩
      cases t with
      | word w =>
        simpa [List.findSome?_cons, Token.valueOf] using
          findSome?_valueOf_of_mem (by simpa [Token.key?] using hn) hmem
      | pair k v' =>
        simp only [List.filterMap_cons, Token.key?, List.nodup_cons] at hn
        have hne : k ≠ key := fun e => hn.1 (e ▸ hk)
        simpa [List.findSome?_cons, Token.valueOf, hne] using findSome?_valueOf_of_mem hn.2 hmem

/-! ## The parser reads the format -/

/-- In the format, a printed pair holds no white space, and no printed token holds a newline or
the separator. -/
theorem TokenFormat.render_ok {sep : Char} {ts : List Token} (hf : TokenFormat sep ts) :
    ∀ r ∈ ts.map Token.render, ('=' ∈ r → ∀ x ∈ r, isSpace x = false) ∧ '\n' ∉ r ∧ sep ∉ r := by
  have hsp : isSpace sep = true := by rcases hf.sep_eq with rfl | rfl <;> decide
  intro r hr
  obtain ⟨t, ht, rfl⟩ := List.mem_map.mp hr
  cases t with
  | pair k v =>
    obtain ⟨hk, hv, -⟩ := hf.pair_ok k v ht
    have hall : ∀ x ∈ k ++ '=' :: v, isSpace x = false := by
      intro x hx
      rcases List.mem_append.mp hx with hx | hx
      · exact hk x hx
      · rcases List.mem_cons.mp hx with rfl | hx
        · decide
        · exact hv x hx
    exact ⟨fun _ => hall, fun h => absurd (hall _ h) (by decide),
      fun h => absurd (hall _ h) (by simp [hsp])⟩
  | word w =>
    obtain ⟨hw, hn, hs⟩ := hf.word_ok w ht
    exact ⟨fun h => absurd h hw, hn, hs⟩

/-- For tokens in the format, `GetDiskFormat` on their output answers what they say. -/
theorem getDiskFormat_blkidOutput {sep : Char} {ts : List Token} (hf : TokenFormat sep ts) :
    getDiskFormat (blkidOutput sep ts) none = (tokensDiskFormat ts, none) := by
  have hsp : isSpace sep = true := by rcases hf.sep_eq with rfl | rfl <;> decide
  have hR := hf.render_ok
  have hT := filter_trimPieces '=' (by decide) _ fun r hr => (hR r hr).1
  have hR' : ∀ r ∈ trimPieces (ts.map Token.render), '=' ∈ r → ∀ x ∈ r, isSpace x = false :=
    fun r hr he => (hR r (List.mem_filter.mp (hT ▸ List.mem_filter.mpr ⟨hr, by simpa using he⟩)).1).1 he
  -- the line loop reads the quote-stripped `TYPE` and the `PTTYPE` of the tokens
  have hfold : (splitLines (trimSpace (join sep (ts.map Token.render)))).foldl scanLine ([], []) =
      (((ts.findSome? (Token.valueOf "TYPE".toList)).map (·.filter (· ≠ '"'))).getD [],
        (ts.findSome? (Token.valueOf "PTTYPE".toList)).getD []) := by
    rw [trimSpace_join sep hsp, foldl_scanLine_filter,
      filter_splitLines hf.sep_eq _ (not_mem_of_mem_trimPieces _ _ fun r hr => (hR r hr).2.1)
        (not_mem_of_mem_trimPieces _ _ fun r hr => (hR r hr).2.2) hR', hT]
    exact foldl_scanLine_tokens ts _ (fun k v h => (hf.pair_ok k v h).2.2)
      (fun w h => (hf.word_ok w h).1) hf.keys_nodup
  have hout : (blkidOutput sep ts).toList = join sep (ts.map Token.render) := rfl
  unfold getDiskFormat tokensDiskFormat
  dsimp only
  rw [hout, hfold]
  rcases ts.findSome? (Token.valueOf "PTTYPE".toList) with _ | _ | ⟨c, v⟩ <;>
    rcases ts.findSome? (Token.valueOf "TYPE".toList) <;> simp

/-- White space after the output, such as the newline that ends `blkid`'s, changes nothing. -/
theorem getDiskFormat_append_space (dataOut : String) {t : List Char}
    (ht : ∀ c ∈ t, isSpace c = true) (err : Option RunError) :
    getDiskFormat (dataOut ++ String.mk t) err = getDiskFormat dataOut err := by
  have hout : (dataOut ++ String.mk t).toList = dataOut.toList ++ t := rfl
  simp only [getDiskFormat, hout, trimSpace_append_space ht]

/-- With distinct keys, a non-empty `PTTYPE`, or a `TYPE` with a character other than a double
quote, says the disk is formatted. -/
theorem tokensDiskFormat_ne_empty {ts : List Token} (hn : (ts.filterMap Token.key?).Nodup)
    (h : (∃ v, Token.pair "PTTYPE".toList v ∈ ts ∧ v ≠ []) ∨
      (∃ v, Token.pair "TYPE".toList v ∈ ts ∧ ∃ c ∈ v, c ≠ '"')) :
    tokensDiskFormat ts ≠ "" := by
  rw [tokensDiskFormat]
  rcases h with ⟨v, hv, hne⟩ | ⟨v, hv, c, hc, hq⟩
  · rw [findSome?_valueOf_of_mem hn hv]
    obtain ⟨c, v, rfl⟩ := List.exists_cons_of_ne_nil hne
    simp
  · rw [findSome?_valueOf_of_mem hn hv]
    split
    · simp
    · intro h
      have : c ∈ v.filter (· ≠ '"') := List.mem_filter.mpr ⟨hc, by simpa using hq⟩
      rw [show v.filter (· ≠ '"') = [] from congrArg String.data h] at this
      exact List.not_mem_nil _ this

/-- `blkid`'s exit status 2 is an unformatted disk, whatever the output. For every token list in
the format, printed with either separator and followed by any white space, `GetDiskFormat` answers
what the tokens say; so a non-empty `PTTYPE`, or a `TYPE` with a character other than a double
quote, is never reported as unformatted. -/
theorem getDiskFormat_tokens :
    (∀ dataOut, getDiskFormat dataOut (some (.exitError 2)) = ("", none)) ∧
    ∀ sep ts trailing, TokenFormat sep ts → (∀ c ∈ trailing, isSpace c = true) →
      getDiskFormat (blkidOutput sep ts ++ String.mk trailing) none = (tokensDiskFormat ts, none) ∧
      ((∃ v, Token.pair "PTTYPE".toList v ∈ ts ∧ v ≠ []) ∨
          (∃ v, Token.pair "TYPE".toList v ∈ ts ∧ ∃ c ∈ v, c ≠ '"') →
        (getDiskFormat (blkidOutput sep ts ++ String.mk trailing) none).1 ≠ "") := by
  refine ⟨fun _ => rfl, fun _ _ _ hf ht => ?_⟩
  rw [getDiskFormat_append_space _ ht, getDiskFormat_blkidOutput hf]
  exact ⟨rfl, tokensDiskFormat_ne_empty hf.keys_nodup⟩

/-- Busybox's one-line output for an `ext4` disk, with the newline that ends it, is in the format,
and is read as `ext4`. -/
theorem getDiskFormat_busybox_ext4 :
    TokenFormat ' ' [.word "/dev/vdb:".toList, .pair "UUID".toList "\"5f3a\"".toList,
        .pair "TYPE".toList "\"ext4\"".toList] ∧ (∀ c ∈ ['\n'], isSpace c = true) ∧
      getDiskFormat (blkidOutput ' ' [.word "/dev/vdb:".toList, .pair "UUID".toList "\"5f3a\"".toList,
        .pair "TYPE".toList "\"ext4\"".toList] ++ String.mk ['\n']) none = ("ext4", none) := by
  have hf : TokenFormat ' ' [.word "/dev/vdb:".toList, .pair "UUID".toList "\"5f3a\"".toList,
      .pair "TYPE".toList "\"ext4\"".toList] :=
    ⟨.inr rfl, fun k v h => by simp only [List.mem_cons, Token.pair.injEq, reduceCtorEq, false_or,
      List.mem_nil_iff, or_false] at h; rcases h with ⟨rfl, rfl⟩ | ⟨rfl, rfl⟩ <;> decide,
      fun w h => by simp only [List.mem_cons, Token.word.injEq, reduceCtorEq, or_false,
        List.mem_nil_iff] at h; subst h; decide, by decide⟩
  have ht : ∀ c ∈ ['\n'], isSpace c = true := by decide
  exact ⟨hf, ht, (getDiskFormat_tokens.2 _ _ _ hf ht).1⟩

/-- A key with white space in front is read as `TYPE` once the output is trimmed, and a key with a
space in a one-line output is cut at the space: both outputs have no `TYPE` pair, and both are
read as `ext4`. A `TYPE` of two double quotes is read as unformatted. -/
theorem getDiskFormat_reads_past_tokens :
    tokensDiskFormat [.pair "\tTYPE".toList "ext4".toList, .pair "B".toList "c".toList] = "" ∧
      getDiskFormat (blkidOutput '\n'
        [.pair "\tTYPE".toList "ext4".toList, .pair "B".toList "c".toList]) none = ("ext4", none) ∧
      tokensDiskFormat [.pair "my TYPE".toList "ext4".toList] = "" ∧
      getDiskFormat (blkidOutput '\n' [.pair "my TYPE".toList "ext4".toList]) none =
        ("ext4", none) ∧
      getDiskFormat (blkidOutput '\n' [.pair "TYPE".toList "\"\"".toList]) none = ("", none) :=
  ⟨by decide, by decide, by decide, by decide, by decide⟩

end CinderCsi.Mount
