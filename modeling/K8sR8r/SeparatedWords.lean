import Mathlib.Data.List.Chain
import Mathlib.Data.List.DropRight
import Mathlib.Tactic

/-!
# Words and separators

A word starts and ends in an outer letter and has inner letters in between.  A
text is a sequence of words with one separator between two of them exactly when
it starts and ends in an outer letter and every separator stands between outer
letters.  Said that way the property is kept by prefixes, up to their last
letter, and by joining texts with inner letters.
-/

namespace SeparatedWords

variable {α : Type}

/-- A non-empty word over `inner` that starts and ends in `outer`. -/
structure IsWord (outer inner : α → Bool) (text : List α) : Prop where
  nonempty : text ≠ []
  head : ∀ x ∈ text.head?, outer x = true
  last : ∀ x ∈ text.getLast?, outer x = true
  letters : ∀ x ∈ text, inner x = true

/-- A separator has outer letters beside it. -/
def Beside (outer : α → Bool) (sep : α) (x y : α) : Prop :=
  (x = sep → outer y = true) ∧ (y = sep → outer x = true)

/-- The beginning of a sequence of words. -/
structure Opens (outer inner : α → Bool) (sep : α) (text : List α) :
    Prop where
  nonempty : text ≠ []
  head : ∀ x ∈ text.head?, outer x = true
  letters : ∀ x ∈ text, inner x = true ∨ x = sep
  chain : text.IsChain (Beside outer sep)

/-- A sequence of words. -/
structure IsSentence (outer inner : α → Bool) (sep : α) (text : List α) : Prop
    extends Opens outer inner sep text where
  last : ∀ x ∈ text.getLast?, outer x = true

/-- The separator is no letter, and outer letters are letters. -/
structure Alphabet (outer inner : α → Bool) (sep : α) : Prop where
  outer_inner : ∀ x, outer x = true → inner x = true
  sep_inner : inner sep = false

variable {outer inner : α → Bool} {sep : α}

theorem Alphabet.outer_ne (alphabet : Alphabet outer inner sep) {x : α} (hx : outer x = true) :
    x ≠ sep := by
  rintro rfl
  exact absurd (alphabet.outer_inner x hx) (by simp [alphabet.sep_inner])

theorem Alphabet.inner_ne (alphabet : Alphabet outer inner sep) {x : α} (hx : inner x = true) :
    x ≠ sep := by
  rintro rfl
  exact absurd hx (by simp [alphabet.sep_inner])

variable {text : List α}

theorem Alphabet.isWord (alphabet : Alphabet outer inner sep) (hne : text ≠ [])
    (houter : ∀ x ∈ text, outer x = true) : IsWord outer inner text where
  nonempty := hne
  head := fun x hx => houter x (List.mem_of_mem_head? hx)
  last := fun x hx => houter x (List.mem_of_mem_getLast? hx)
  letters := fun x hx => alphabet.outer_inner x (houter x hx)

/-! ## Padding -/

theorem dropWhile_padded {space : α → Bool} {padding : List α}
    (hpadding : ∀ x ∈ padding, space x = true) (hhead : ∀ x ∈ text.head?, space x = false) :
    (padding ++ text).dropWhile space = text := by
  rw [List.dropWhile_append_of_pos hpadding]
  cases text with
  | nil => rfl
  | cons first rest =>
    rw [List.dropWhile_cons_of_neg]
    simp [hhead first rfl]

theorem IsWord.trim {space : α → Bool} (hspace : ∀ x, outer x = true → space x = false)
    {left right : List α} (word : IsWord outer inner text) (hleft : ∀ x ∈ left, space x = true)
    (hright : ∀ x ∈ right, space x = true) :
    ((left ++ (text ++ right)).dropWhile space).rdropWhile space = text := by
  have hhead : ∀ x ∈ (text ++ right).head?, space x = false := by
    rw [List.head?_append_of_ne_nil _ word.nonempty]
    exact fun x hx => hspace x (word.head x hx)
  have hlast : ∀ x ∈ text.reverse.head?, space x = false := by
    rw [List.head?_reverse]
    exact fun x hx => hspace x (word.last x hx)
  rw [dropWhile_padded hleft hhead]
  unfold List.rdropWhile
  rw [List.reverse_append, dropWhile_padded _ hlast, List.reverse_reverse]
  simpa using hright

/-! ## Beginnings and joins -/

theorem Opens.of_start {start : List α} (opens : Opens outer inner sep text)
    (hstart : start <+: text) (hne : start ≠ []) :
    Opens outer inner sep start where
  nonempty := hne
  head := by
    intro x hx
    apply opens.head
    obtain ⟨rest, rfl⟩ := hstart
    rw [List.head?_append_of_ne_nil _ hne]
    exact hx
  letters := fun x hx => opens.letters x (hstart.subset hx)
  chain := opens.chain.infix hstart.isInfix

theorem Opens.rdropWhile (opens : Opens outer inner sep text) {cut : α → Bool}
    (hcut : ∀ x ∈ text, cut x = !outer x) :
    IsSentence outer inner sep (text.rdropWhile cut) := by
  have hstart : text.rdropWhile cut <+: text := List.rdropWhile_prefix cut text
  have hne : text.rdropWhile cut ≠ [] := by
    obtain ⟨first, rest, rfl⟩ := List.exists_cons_of_ne_nil opens.nonempty
    have hfirst : outer first = true := opens.head first rfl
    intro hnil
    have hall := List.rdropWhile_eq_nil_iff.mp hnil first List.mem_cons_self
    simp [hcut first List.mem_cons_self, hfirst] at hall
  refine ⟨opens.of_start hstart hne, ?_⟩
  intro x hx
  obtain ⟨_, rfl⟩ := List.mem_getLast?_eq_getLast hx
  have hlast := List.rdropWhile_last_not cut text hne
  have hmem := hstart.subset (List.getLast_mem hne)
  simpa [hcut _ hmem] using hlast

section Joins

variable {left right : List α}

theorem IsSentence.join (alphabet : Alphabet outer inner sep)
    (hleft : IsSentence outer inner sep left) (hright : IsSentence outer inner sep right) {x : α}
    (hx : inner x = true ∨ x = sep) :
    IsSentence outer inner sep (left ++ x :: right) where
  nonempty := by simp
  head := by
    rw [List.head?_append_of_ne_nil _ hleft.nonempty]
    exact hleft.head
  letters := by
    intro y hy
    rcases List.mem_append.mp hy with hy | hy
    · exact hleft.letters y hy
    · rcases List.mem_cons.mp hy with rfl | hy
      · exact hx
      · exact hright.letters y hy
  chain := by
    apply hleft.chain.append
    · apply hright.chain.cons
      intro y hy
      have houter := hright.head y hy
      exact ⟨fun _ => houter, fun h => absurd h (alphabet.outer_ne houter)⟩
    · intro y hy z hz
      have houter := hleft.last y hy
      exact ⟨fun h => absurd h (alphabet.outer_ne houter), fun _ => houter⟩
  last := by
    rw [List.append_cons, List.getLast?_append_of_ne_nil _ hright.nonempty]
    exact hright.last

/-- What stands on either side of a separator is a sentence. -/
theorem IsSentence.sides (alphabet : Alphabet outer inner sep)
    (sentence : IsSentence outer inner sep (left ++ sep :: right)) :
    IsSentence outer inner sep left ∧ IsSentence outer inner sep right := by
  have hsep : outer sep = false := by
    cases houter : outer sep with
    | false => rfl
    | true => exact absurd rfl (alphabet.outer_ne houter)
  have hleft : left ≠ [] := by
    rintro rfl
    have := sentence.head sep rfl
    simp [hsep] at this
  have hright : right ≠ [] := by
    rintro rfl
    have := sentence.last sep (by simp)
    simp [hsep] at this
  obtain ⟨hchain, htail, hlink⟩ := List.isChain_append.mp sentence.chain
  obtain ⟨hnext, hrest⟩ := List.isChain_cons.mp htail
  constructor
  · refine ⟨sentence.of_start ⟨_, rfl⟩ hleft, ?_⟩
    intro x hx
    exact (hlink x hx sep rfl).2 rfl
  · refine ⟨⟨hright, ?_, ?_, hrest⟩, ?_⟩
    · intro x hx
      exact (hnext x hx).1 rfl
    · intro x hx
      exact sentence.letters x (by simp [hx])
    · have hlast := sentence.last
      rw [List.append_cons, List.getLast?_append_of_ne_nil _ hright] at hlast
      exact hlast

end Joins

/-! ## Splitting -/

theorem IsWord.isSentence (alphabet : Alphabet outer inner sep) (word : IsWord outer inner text) :
    IsSentence outer inner sep text where
  nonempty := word.nonempty
  head := word.head
  letters := fun x hx => .inl (word.letters x hx)
  last := word.last
  chain := by
    apply List.Pairwise.isChain
    apply List.pairwise_of_forall_mem_list
    intro x hx y hy
    exact ⟨fun h => absurd h (alphabet.inner_ne (word.letters x hx)),
      fun h => absurd h (alphabet.inner_ne (word.letters y hy))⟩

theorem IsSentence.isWord (sentence : IsSentence outer inner sep text) (hsep : sep ∉ text) :
    IsWord outer inner text where
  nonempty := sentence.nonempty
  head := sentence.head
  last := sentence.last
  letters := by
    intro x hx
    rcases sentence.letters x hx with hinner | rfl
    · exact hinner
    · exact absurd hx hsep

theorem isSentence_intercalate (alphabet : Alphabet outer inner sep) {words : List (List α)}
    (hne : words ≠ []) (hwords : ∀ word ∈ words, IsWord outer inner word) :
    IsSentence outer inner sep ([sep].intercalate words) := by
  induction words with
  | nil => exact absurd rfl hne
  | cons word words ih =>
    have hword := (hwords word List.mem_cons_self).isSentence alphabet
    cases words with
    | nil => simpa using hword
    | cons next rest =>
      have hrest := ih (by simp) fun other hmem =>
        hwords other (List.mem_cons_of_mem _ hmem)
      rw [List.intercalate_cons_cons]
      simpa using hword.join alphabet hrest (.inr rfl)

theorem isWord_of_intercalate (alphabet : Alphabet outer inner sep) {words : List (List α)}
    (hsep : ∀ word ∈ words, sep ∉ word)
    (sentence : IsSentence outer inner sep ([sep].intercalate words)) :
    ∀ word ∈ words, IsWord outer inner word := by
  induction words with
  | nil => simp
  | cons word words ih =>
    have hword := hsep word List.mem_cons_self
    cases words with
    | nil =>
      simp only [List.mem_singleton, forall_eq]
      exact IsSentence.isWord (by simpa using sentence) hword
    | cons next rest =>
      rw [List.intercalate_cons_cons] at sentence
      have hsides : IsSentence outer inner sep
          (word ++ sep :: [sep].intercalate (next :: rest)) := by
        simpa using sentence
      obtain ⟨hleft, hright⟩ := hsides.sides alphabet
      intro other hmem
      rcases List.mem_cons.mp hmem with rfl | hmem
      · exact hleft.isWord hword
      · exact ih (fun later hlater => hsep later (List.mem_cons_of_mem _ hlater)) hright other hmem

variable [DecidableEq α]

theorem not_mem_of_mem_splitOn {part : List α} (hpart : part ∈ text.splitOn sep) : sep ∉ part := by
  induction text generalizing part with
  | nil => simp_all
  | cons x text ih =>
    rw [List.splitOn_cons_eq_if_modifyHead] at hpart
    by_cases hx : x = sep
    · simp only [hx, beq_self_eq_true, if_true, List.mem_cons] at hpart
      rcases hpart with rfl | hpart
      · simp
      · exact ih hpart
    · obtain ⟨first, rest, hsplit⟩ :=
        List.exists_cons_of_ne_nil (List.splitOn_ne_nil sep text)
      simp only [beq_eq_false_iff_ne.mpr hx, Bool.false_eq_true, if_false,
        hsplit, List.modifyHead_cons, List.mem_cons] at hpart
      rcases hpart with rfl | hpart
      · have hfirst : sep ∉ first := ih (by simp [hsplit])
        simp [Ne.symm hx, hfirst]
      · exact ih (by simp [hsplit, hpart])

/-- A text is a sentence exactly when its parts are words. -/
theorem isSentence_iff (alphabet : Alphabet outer inner sep) :
    IsSentence outer inner sep text ↔ ∀ part ∈ text.splitOn sep, IsWord outer inner part := by
  have hjoin : [sep].intercalate (text.splitOn sep) = text :=
    List.intercalate_splitOn sep
  constructor
  · intro sentence
    rw [← hjoin] at sentence
    exact isWord_of_intercalate alphabet (fun _ hpart => not_mem_of_mem_splitOn hpart) sentence
  · intro words
    rw [← hjoin]
    exact isSentence_intercalate alphabet (List.splitOn_ne_nil sep text) words

end SeparatedWords
