import Compositor.Proofs.Text.Numerals

set_option autoImplicit false

/-!
# Names of keysyms

A keysym has a name if it is one of the table, a function key, or an ASCII letter or digit. The
three kinds of names are told apart by their texts and the three kinds of keysyms by their codes, so
writing the name of a keysym and reading a name are both described by one relation. Reading takes
more than names: the number of a function key may have padding.

## Main definitions

* `Keysym.HasName` — the names, by their kinds.
* `Keysym.spelling` — a function key whose number has padding.
* `Keysym.IsPadded` — whether a text looks like such a spelling.

## Main results

* `Keysym.name?_eq_some_iff` — the name of a keysym is the one that it has.
* `Keysym.ofName?_eq_some_iff` — what is read is a name or a function key with padding.
* `Keysym.ofName_of_name` — names are read as the keysyms that they are names of.
* `Keysym.name_of_ofName_iff` — the texts that are read without being names.
-/

namespace Compositor.Keysym

variable {keysym : Keysym} {name : String} {n : UInt32}

/-- The names of keysyms. -/
inductive HasName : Keysym → String → Prop
  /-- A word of the table. -/
  | word {keysym : Keysym} {name : String} : (name, keysym) ∈ named → HasName keysym name
  /-- The number of a function key. -/
  | function {keysym : Keysym} {n : UInt32} :
    function? n = some keysym → HasName keysym ("F" ++ toString n.toNat)
  /-- The character itself. -/
  | character {c : Char} : c.isAlphanum = true → HasName ⟨c.val⟩ (String.singleton c)

/-- The function key with a number that has padding in front of it. -/
def spelling (plus : Bool) (zeros : Nat) (n : UInt32) : String :=
  "F" ++ String.ofList (Numeral.padding plus zeros) ++ toString n.toNat

/-- The letter of the function keys, with a plus sign or a zero after it. -/
def IsPadded (name : String) : Prop :=
  ∃ rest, name.toList = 'F' :: '+' :: rest ∨ name.toList = 'F' :: '0' :: rest

/-! ## The three kinds -/

/-- The function keys are numbered from one up to twelve. -/
lemma function?_eq_some_iff :
    function? n = some keysym ↔ (1 ≤ n ∧ n ≤ 12) ∧ keysym = ⟨f1.code + n - 1⟩ := by
  unfold function?
  rw [Option.ite_none_right_eq_some, Option.some.injEq, eq_comm (a := keysym)]

/-- The letter of a function key is followed by the padding and the digits of its number. -/
lemma toList_spelling (plus : Bool) (zeros : Nat) (n : UInt32) :
    (spelling plus zeros n).toList =
      'F' :: (Numeral.padding plus zeros ++ Nat.toDigits 10 n.toNat) := by
  simp [spelling, String.toList_append]

/-- Without padding a function key is spelled by its letter and its number. -/
lemma spelling_of_nil {plus : Bool} {zeros : Nat} (h : Numeral.padding plus zeros = []) :
    spelling plus zeros n = "F" ++ toString n.toNat := by
  rw [spelling, h, String.ofList_nil, String.append_empty]

/-- The words of the table name different keysyms, which are neither function keys nor
characters. -/
lemma named_codes : ∀ entry ∈ named,
    named.find? (fun other => other.2 == entry.2) = some entry ∧
      ¬ (f1.code ≤ entry.2.code ∧ entry.2.code ≤ f12.code) ∧
      (entry.2.code < 48 ∨ 122 < entry.2.code) := by
  decide +kernel

/-- The words of the table are different and have several characters, of which the first is not the
letter of the function keys. -/
lemma named_words : ∀ entry ∈ named,
    named.find? (fun other => other.1 == entry.1) = some entry ∧
      entry.1.toList.head? ≠ some 'F' ∧ entry.1.toList.length ≠ 1 := by
  decide +kernel

/-- The codes of ASCII letters and digits. -/
lemma code_of_isAlphanum {c : Char} (h : c.isAlphanum = true) : 48 ≤ c.val ∧ c.val ≤ 122 := by
  have hrange : ∀ {low high : UInt32}, 48 ≤ low → high ≤ 122 → low ≤ c.val → c.val ≤ high →
      48 ≤ c.val ∧ c.val ≤ 122 := fun hlow hhigh hl hh =>
    ⟨UInt32.le_trans hlow hl, UInt32.le_trans hh hhigh⟩
  obtain halpha | hdigit := Bool.or_eq_true_iff.1 h
  · obtain hupper | hlower := Bool.or_eq_true_iff.1 halpha
    · obtain ⟨hA, hZ⟩ := of_decide_eq_true hupper
      exact hrange (by decide) (by decide) hA hZ
    · obtain ⟨ha, hz⟩ := Bool.and_eq_true_iff.1 hlower
      exact hrange (by decide) (by decide) (of_decide_eq_true ha) (of_decide_eq_true hz)
  · obtain ⟨hzero, hnine⟩ := Bool.and_eq_true_iff.1 hdigit
    exact hrange (by decide) (by decide) (of_decide_eq_true hzero) (of_decide_eq_true hnine)

/-- The codes of function keys. -/
lemma code_of_function? (h : function? n = some keysym) :
    (f1.code ≤ keysym.code ∧ keysym.code ≤ f12.code) ∧ keysym.code - f1.code + 1 = n := by
  obtain ⟨⟨hlow, hhigh⟩, rfl⟩ := function?_eq_some_iff.1 h
  simp only [f1, f12, UInt32.le_iff_toNat_le, ← UInt32.toNat_inj, UInt32.toNat_add,
    UInt32.toNat_sub, UInt32.reduceToNat] at hlow hhigh ⊢
  omega

/-- The keysyms with such codes are function keys. -/
lemma function?_of_code (hlow : f1.code ≤ keysym.code) (hhigh : keysym.code ≤ f12.code) :
    function? (keysym.code - f1.code + 1) = some keysym := by
  obtain ⟨code⟩ := keysym
  simp only [function?_eq_some_iff, mk.injEq, f1, f12, UInt32.le_iff_toNat_le,
    ← UInt32.toNat_inj, UInt32.toNat_add, UInt32.toNat_sub, UInt32.reduceToNat] at hlow hhigh ⊢
  omega

/-- A code of ASCII is the code of the character with its number. -/
lemma val_ofNat {code : UInt32} (h : code < 128) : (Char.ofNat code.toNat).val = code := by
  have hvalid : code.toNat.isValidChar := by
    simp only [UInt32.lt_iff_toNat_lt, UInt32.reduceToNat] at h
    exact .inl (by omega)
  rw [Char.ofNat, dif_pos hvalid]
  rfl

/-- The codes of ASCII letters and digits are apart from those of other keysyms that have a
name. -/
lemma codes_of_isAlphanum {c : Char} (h : c.isAlphanum = true) :
    (∀ entry ∈ named, entry.2 ≠ ⟨c.val⟩) ∧ ¬ (f1.code ≤ c.val ∧ c.val ≤ f12.code) ∧
      c.val < 128 := by
  obtain ⟨hlow, hhigh⟩ := code_of_isAlphanum h
  refine ⟨fun entry hentry he => ?_, fun hcode => ?_, UInt32.lt_of_le_of_lt hhigh (by decide)⟩
  · have hcode := (named_codes entry hentry).2.2
    rw [he] at hcode
    obtain hlt | hgt := hcode
    · exact UInt32.not_le.2 hlt hlow
    · exact UInt32.not_le.2 hgt hhigh
  · exact absurd (UInt32.le_trans hcode.1 hhigh) (by decide)

/-! ## Writing names -/

/-- A keysym of the table has the name that stands there. -/
lemma name?_of_mem (h : (name, keysym) ∈ named) : keysym.name? = some name := by
  unfold name?
  rw [(named_codes _ h).1]

/-- A keysym that is not in the table is a function key, or a letter or digit, or has no name. -/
lemma name?_of_ne (h : ∀ entry ∈ named, entry.2 ≠ keysym) :
    keysym.name? =
      if f1.code ≤ keysym.code ∧ keysym.code ≤ f12.code then
        some ("F" ++ toString (keysym.code - f1.code + 1).toNat)
      else if keysym.code < 128 ∧ (Char.ofNat keysym.code.toNat).isAlphanum then
        some (String.singleton (Char.ofNat keysym.code.toNat))
      else none := by
  have hfind : named.find? (fun entry => entry.2 == keysym) = none :=
    List.find?_eq_none.2 fun entry hentry => by simpa using h entry hentry
  unfold name?
  rw [hfind]

/-- **The name of a keysym** is the one that it has.

**Proof sketch.** The search through the table, the test for function keys and that for characters
succeed on codes that do not overlap, so each kind of name is found where it is looked for. -/
theorem name?_eq_some_iff : keysym.name? = some name ↔ keysym.HasName name := by
  constructor
  · intro h
    by_cases hword : ∃ entry ∈ named, entry.2 = keysym
    · obtain ⟨⟨word, _⟩, hentry, rfl⟩ := hword
      rw [name?_of_mem hentry] at h
      exact Option.some.inj h ▸ .word hentry
    · rw [name?_of_ne fun entry hentry he => hword ⟨entry, hentry, he⟩] at h
      split at h <;> rename_i hcode
      · exact Option.some.inj h ▸ .function (function?_of_code hcode.1 hcode.2)
      · obtain ⟨⟨hascii, halnum⟩, hname⟩ := Option.ite_none_right_eq_some.1 h
        have hcharacter := HasName.character halnum
        rwa [val_ofNat hascii, Option.some.inj hname] at hcharacter
  · intro h
    cases h with
    | word hmem => exact name?_of_mem hmem
    | function hn =>
      obtain ⟨hcode, hnumber⟩ := code_of_function? hn
      rw [name?_of_ne, if_pos hcode, hnumber]
      rintro entry hentry rfl
      exact (named_codes entry hentry).2.1 hcode
    | @character c halnum =>
      obtain ⟨hne, hkey, hascii⟩ := codes_of_isAlphanum halnum
      have hc : Char.ofNat c.val.toNat = c := Char.ofNat_toNat c
      rw [name?_of_ne hne, if_neg hkey, hc, if_pos ⟨hascii, halnum⟩]

/-! ## Reading names -/

/-- A single letter or digit stands for its own keysym. -/
lemma ofCharacters?_eq_some_iff {characters : List Char} :
    ofCharacters? characters = some keysym ↔
      ∃ c, characters = [c] ∧ c.isAlphanum = true ∧ keysym = ⟨c.val⟩ := by
  unfold ofCharacters?
  split
  · rename_i c
    rw [Option.ite_none_right_eq_some, Option.some.injEq]
    constructor
    · rintro ⟨h, rfl⟩
      exact ⟨c, rfl, h, rfl⟩
    · rintro ⟨d, hd, h, rfl⟩
      obtain rfl := List.head_eq_of_cons_eq hd
      exact ⟨h, rfl⟩
  · rename_i hother
    refine ⟨nofun, ?_⟩
    rintro ⟨c, rfl, -⟩
    exact absurd rfl (hother c)

/-- A name of the table stands for the keysym that stands there. -/
lemma ofName?_of_mem (h : (name, keysym) ∈ named) : ofName? name = some keysym := by
  unfold ofName?
  rw [(named_words _ h).1]

/-- A name that is not in the table is read as a function key if it begins like one, and otherwise
as a single character. -/
lemma ofName?_of_ne (h : ∀ entry ∈ named, entry.1 ≠ name) :
    ofName? name = match name.toList with
      | 'F' :: rest =>
        match Numeral.readWord? rest with
        | some n => function? n
        | none => ofCharacters? name.toList
      | characters => ofCharacters? characters := by
  have hfind : named.find? (fun entry => entry.1 == name) = none :=
    List.find?_eq_none.2 fun entry hentry => by simpa using h entry hentry
  unfold ofName?
  split
  · rename_i hsome
    cases hfind.symm.trans hsome
  · rfl

/-- A function key may have padding. -/
lemma ofName?_spelling (plus : Bool) (zeros : Nat) (n : UInt32) :
    ofName? (spelling plus zeros n) = function? n := by
  have hread : Numeral.readWord? (Numeral.padding plus zeros ++ Nat.toDigits 10 n.toNat) = some n :=
    Numeral.readWord?_eq_some_iff.2 ⟨plus, zeros, rfl⟩
  rw [ofName?_of_ne, toList_spelling]
  · simp only [hread]
  · intro entry hentry he
    refine (named_words entry hentry).2.1 ?_
    rw [he, toList_spelling, List.head?_cons]

/-- A letter or digit by itself is the name of its own keysym, the letter F included. -/
lemma ofName?_singleton {c : Char} (h : c.isAlphanum = true) :
    ofName? (String.singleton c) = some ⟨c.val⟩ := by
  have hlist : (String.singleton c).toList = [c] := String.toList_singleton c
  have hread : ofCharacters? [c] = some ⟨c.val⟩ := ofCharacters?_eq_some_iff.2 ⟨c, rfl, h, rfl⟩
  rw [ofName?_of_ne, hlist]
  · split
    · rename_i hcons
      obtain rfl := (List.cons.inj hcons).2
      exact hread
    · exact hread
  · intro entry hentry he
    refine (named_words entry hentry).2.2 ?_
    rw [he, hlist]
    rfl

/-- **What is read** is a name, or a function key whose number has padding. -/
theorem ofName?_eq_some_iff :
    ofName? name = some keysym ↔ keysym.HasName name ∨
      ∃ plus zeros n, function? n = some keysym ∧ Numeral.padding plus zeros ≠ [] ∧
        name = spelling plus zeros n := by
  have hcharacters : ∀ {characters}, name.toList = characters →
      ofCharacters? characters = some keysym → keysym.HasName name := by
    rintro _ hlist h
    obtain ⟨c, rfl, halnum, rfl⟩ := ofCharacters?_eq_some_iff.1 h
    obtain rfl : name = String.singleton c :=
      String.toList_inj.1 (hlist.trans (String.toList_singleton c).symm)
    exact .character halnum
  constructor
  · intro h
    by_cases hword : ∃ entry ∈ named, entry.1 = name
    · obtain ⟨⟨_, key⟩, hentry, rfl⟩ := hword
      rw [ofName?_of_mem hentry] at h
      exact .inl (Option.some.inj h ▸ .word hentry)
    · rw [ofName?_of_ne fun entry hentry he => hword ⟨entry, hentry, he⟩] at h
      split at h <;> rename_i hlist
      · split at h <;> rename_i hread
        · rename_i n
          obtain ⟨plus, zeros, rfl⟩ := Numeral.readWord?_eq_some_iff.1 hread
          obtain rfl : name = spelling plus zeros n := by
            rw [← String.toList_inj, hlist, toList_spelling]
          -- without padding the spelling is the name itself
          by_cases hpadding : Numeral.padding plus zeros = []
          · rw [spelling_of_nil hpadding]
            exact .inl (.function h)
          · exact .inr ⟨plus, zeros, n, h, hpadding, rfl⟩
        · exact .inl (hcharacters rfl h)
      · exact .inl (hcharacters rfl h)
  · rintro (h | ⟨plus, zeros, n, hn, -, rfl⟩)
    · cases h with
      | word hmem => exact ofName?_of_mem hmem
      | @function _ n hn => exact (ofName?_spelling false 0 n).trans hn
      | character halnum => exact ofName?_singleton halnum
    · rw [ofName?_spelling, hn]

/-! ## Padding -/

/-- The numbers of function keys are written without a zero in front. -/
lemma head?_toDigits_ne : ∀ n : Fin 13, 0 < n → (Nat.toDigits 10 n).head? ≠ some '0' := by
  decide

/-- Names have no padding. -/
lemma HasName.not_isPadded (h : keysym.HasName name) : ¬ IsPadded name := by
  rintro ⟨rest, hpadded⟩
  cases h with
  | word hmem =>
    refine (named_words _ hmem).2.1 ?_
    obtain hlist | hlist := hpadded <;> rw [hlist, List.head?_cons]
  | @function _ n hn =>
    obtain ⟨⟨hlow, hhigh⟩, -⟩ := function?_eq_some_iff.1 hn
    simp only [UInt32.le_iff_toNat_le, UInt32.reduceToNat] at hlow hhigh
    have hzero := head?_toDigits_ne ⟨n.toNat, by omega⟩ hlow
    have hplain : spelling false 0 n = "F" ++ toString n.toNat := spelling_of_nil rfl
    rw [← hplain, toList_spelling] at hpadded
    obtain hlist | hlist := hpadded
    · exact Numeral.ne_plus_cons 0 n.toNat rest (List.cons.inj hlist).2
    · refine hzero ?_
      show (Numeral.padding false 0 ++ Nat.toDigits 10 n.toNat).head? = some '0'
      rw [(List.cons.inj hlist).2, List.head?_cons]
  | @character c _ =>
    rw [String.toList_singleton] at hpadded
    simp at hpadded

/-- A function key with padding looks so. -/
lemma isPadded_spelling {plus : Bool} {zeros : Nat} (h : Numeral.padding plus zeros ≠ [])
    (n : UInt32) : IsPadded (spelling plus zeros n) := by
  unfold IsPadded
  rw [toList_spelling]
  cases plus with
  | true => exact ⟨_, .inl rfl⟩
  | false =>
    cases zeros with
    | zero => exact absurd rfl h
    | succ zeros => exact ⟨_, .inr rfl⟩

/-- **Names are read** as the keysyms that they are names of, and whatever is read has a name.

**Proof sketch.** The texts that are read are names and spellings of function keys
(`ofName?_eq_some_iff`), and function keys have names. -/
theorem ofName_of_name :
    (∀ (keysym : Keysym) (name : String),
      keysym.name? = some name → ofName? name = some keysym) ∧
    ∀ keysym : Keysym,
      (∃ name, keysym.name? = some name) ↔ ∃ name, ofName? name = some keysym := by
  have hread : ∀ (keysym : Keysym) (name : String),
      keysym.name? = some name → ofName? name = some keysym :=
    fun keysym name h => ofName?_eq_some_iff.2 (.inl (name?_eq_some_iff.1 h))
  refine ⟨hread, fun keysym => ⟨fun ⟨name, h⟩ => ⟨name, hread keysym name h⟩, ?_⟩⟩
  rintro ⟨name, h⟩
  obtain hname | ⟨plus, zeros, n, hn, -, rfl⟩ := ofName?_eq_some_iff.1 h
  · exact ⟨name, name?_eq_some_iff.2 hname⟩
  · exact ⟨_, name?_eq_some_iff.2 (.function hn)⟩

/-- The letter of the function keys is a name, too. -/
theorem ofName_of_name_letter :
    (⟨0x46⟩ : Keysym).name? = some "F" ∧ ofName? "F" = some ⟨0x46⟩ ∧
      ∃ name, f12.name? = some name := by
  have hname : (⟨0x46⟩ : Keysym).name? = some "F" := by decide +kernel
  exact ⟨hname, ofName_of_name.1 _ _ hname,
    (ofName_of_name.2 f12).2 ⟨"F012", by decide +kernel⟩⟩

/-- **What is read is a name** unless it has padding, and the keysyms that are read from more than
one text are the function keys.

**Proof sketch.** What is read is a name or a spelling with padding (`ofName?_eq_some_iff`), and
names have no padding. A keysym has one name. If it is a function key, a plus sign and a zero make
two further spellings of it; and no other keysym has spellings with padding. -/
theorem name_of_ofName_iff (keysym : Keysym) :
    (∀ name, ofName? name = some keysym → (keysym.name? = some name ↔ ¬ IsPadded name)) ∧
      ((∀ name other, ofName? name = some keysym → ofName? other = some keysym → name = other) ↔
        ∀ n, function? n ≠ some keysym) := by
  constructor
  · intro name h
    rw [name?_eq_some_iff]
    refine ⟨HasName.not_isPadded, fun hplain => ?_⟩
    obtain hname | ⟨plus, zeros, n, -, hpadding, rfl⟩ := ofName?_eq_some_iff.1 h
    · exact hname
    · exact absurd (isPadded_spelling hpadding n) hplain
  · constructor
    · intro hunique n hn
      -- a plus sign and a zero are two kinds of padding, so there are two spellings
      have hsame := hunique (spelling true 0 n) (spelling false 1 n)
        ((ofName?_spelling true 0 n).trans hn) ((ofName?_spelling false 1 n).trans hn)
      rw [← String.toList_inj, toList_spelling, toList_spelling] at hsame
      exact absurd (List.head_eq_of_cons_eq (List.cons.inj hsame).2) (by decide)
    · intro hother
      have hread : ∀ {name}, ofName? name = some keysym → keysym.name? = some name := by
        intro name h
        obtain hname | ⟨_, _, n, hn, -⟩ := ofName?_eq_some_iff.1 h
        · exact name?_eq_some_iff.2 hname
        · exact absurd hn (hother n)
      intro name other h ho
      exact Option.some.inj ((hread h).symm.trans (hread ho))

/-- A seventh function key with padding is read, but the keysym has the other name. -/
theorem name_of_ofName_iff_seven :
    let seventh : Keysym := ⟨0xffc4⟩
    ofName? "F+07" = some seventh ∧ IsPadded "F+07" ∧ seventh.name? ≠ some "F+07" ∧
      ofName? "F7" = some seventh ∧ ¬ IsPadded "F7" ∧ seventh.name? = some "F7" := by
  intro seventh
  have hpadded : IsPadded "F+07" := ⟨['0', '7'], .inl (by decide +kernel)⟩
  have hplain : ¬ IsPadded "F7" := by
    have hlist : "F7".toList = ['F', '7'] := by decide +kernel
    simp [IsPadded, hlist]
  have hread : ofName? "F+07" = some seventh := by decide +kernel
  have hseven : ofName? "F7" = some seventh := by decide +kernel
  have hiff := (name_of_ofName_iff seventh).1
  exact ⟨hread, hpadded, fun hname => (hiff _ hread).1 hname hpadded, hseven, hplain,
    (hiff _ hseven).2 hplain⟩

/-- Some text is read as a keysym that has another name. -/
theorem exists_ofName_other_name :
    ∃ (text name : String) (keysym : Keysym), text ≠ name ∧ ofName? text = some keysym ∧
      keysym.name? = some name ∧ ofName? name = some keysym :=
  ⟨"F01", "F1", f1, by decide +kernel⟩

end Compositor.Keysym
