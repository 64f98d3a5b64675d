import FleetConfig.Proofs.Flag.Canonical
import Mathlib.Data.List.Basic

/-!
# Blocks of arguments

Arguments that are normalised are cut into blocks one after another: a flag and the value that is
given right after it, or a token by itself. Each block becomes one token, and of equal tokens the
first is kept. So no argument is lost, and none is made up.

## Main definitions

* `Flag.TakesValue`, `Flag.IsValue` — the flags that take a value, and the tokens that are one.
* `Flag.Block`, `Flag.blocks` — a block, and the blocks of a list of tokens.
* `Flag.CutInto` — what it is for tokens to be cut into blocks.

## Main results

* `Flag.joinValues_eq_map_text` — each block becomes one token.
* `Flag.cutInto_blocks` — tokens are cut into their blocks.
* `Flag.exists_cutInto_normalize` — the canonical form are the blocks, each once.
-/

namespace FleetConfig.Flag

variable {switches ts : List String} {token flag value : String}

/-! ### Flags and values -/

/-- Holds of a long flag that is given without a value and may take one. -/
structure TakesValue (switches : List String) (flag : String) : Prop where
  /-- Something follows the two dashes. -/
  long : ∃ c cs, flag.toList = '-' :: '-' :: c :: cs
  /-- There is no value in it. -/
  bare : '=' ∉ flag.toList
  /-- It is none of the flags that take no value. -/
  noSwitch : flag ∉ switches

/-- Holds of a token that can be the value of the flag before it. -/
structure IsValue (token : String) : Prop where
  ne_empty : token ≠ ""
  noDash : token.toList.head? ≠ some '-'

theorem isSome_name?_iff :
    (name? token).isSome = true ↔ ∃ c cs, token.toList = '-' :: '-' :: c :: cs := by
  rw [name?]
  split
  · rename_i c cs hchars
    exact iff_of_true rfl ⟨c, cs, hchars⟩
  · rename_i hother
    refine iff_of_false Bool.false_ne_true ?_
    rintro ⟨c, cs, hchars⟩
    exact hother c cs hchars

theorem takesValue_iff : takesValue switches flag = true ↔ TakesValue switches flag := by
  simp only [takesValue, Bool.and_eq_true, isSome_name?_iff, Bool.not_eq_true',
    ← Bool.not_eq_true, List.contains_iff_mem]
  constructor
  · rintro ⟨⟨hlong, hbare⟩, hswitch⟩
    exact ⟨hlong, hbare, hswitch⟩
  · rintro ⟨hlong, hbare, hswitch⟩
    exact ⟨⟨hlong, hbare⟩, hswitch⟩

theorem isValue_iff : isValue token = true ↔ IsValue token := by
  rw [isValue, startsWithDash, Bool.and_eq_true, bne_iff_ne, Bool.not_eq_true', beq_eq_false_iff_ne]
  constructor
  · rintro ⟨hne, hdash⟩
    exact ⟨hne, hdash⟩
  · rintro ⟨hne, hdash⟩
    exact ⟨hne, hdash⟩

/-! ### Blocks -/

/-- A token by itself, or a flag with its value. -/
inductive Block where
  | single (token : String)
  | pair (flag value : String)
deriving DecidableEq, Repr

namespace Block

/-- The tokens in a block. -/
def tokens : Block → List String
  | single token => [token]
  | pair flag value => [flag, value]

/-- The one token that a block becomes. -/
def text : Block → String
  | single token => token
  | pair flag value => flag ++ "=" ++ value

end Block

/-- The blocks of trimmed tokens. Empty tokens are in no block. -/
def blocks (switches : List String) : List String → List Block
  | [] => []
  | [token] => if token = "" then [] else [.single token]
  | token :: next :: rest =>
    if token = "" then blocks switches (next :: rest)
    else if takesValue switches token && isValue next then .pair token next :: blocks switches rest
    else .single token :: blocks switches (next :: rest)

/-- Each block becomes one token. -/
theorem joinValues_eq_map_text (switches tokens : List String) :
    joinValues switches tokens = (blocks switches tokens).map Block.text := by
  fun_induction blocks switches tokens with
  | case1 => rfl
  | case2 => rfl
  | case3 token hne => exact if_neg hne
  | case4 next rest ih => rw [joinValues, if_pos rfl, ih]
  | case5 token next rest hne hjoin ih =>
    rw [joinValues, if_neg hne, if_pos hjoin, ih, List.map_cons, Block.text]
  | case6 token next rest hne hjoin ih =>
    rw [joinValues, if_neg hne, if_neg hjoin, ih, List.map_cons, Block.text]

/-! ### Tokens that are cut into blocks -/

/-- The tokens that are not empty are cut into blocks one after another. A block has two tokens
exactly if it starts with a flag that takes a value and the token given right after it is one. -/
structure CutInto (switches tokens : List String) (bs : List Block) : Prop where
  /-- The blocks make up the tokens. -/
  covers : bs.flatMap Block.tokens = tokens.filter (· ≠ "")
  /-- Each block starts with a token that is given after those of the blocks in front. -/
  starts : ∀ front block back, bs = front ++ block :: back →
    ∃ before first after, tokens = before ++ first :: after ∧
      front.flatMap Block.tokens = before.filter (· ≠ "") ∧
      block.tokens.head? = some first ∧
      ((∃ flag value, block = .pair flag value) ↔
        TakesValue switches first ∧ ∃ next ∈ after.head?, IsValue next)

theorem CutInto.nil : CutInto switches [] [] :=
  ⟨rfl, fun _ _ _ h => absurd h.symm (List.append_ne_nil_of_right_ne_nil _ (List.cons_ne_nil _ _))⟩

variable {bs : List Block} {block : Block} {first : String} {after : List String}

theorem Block.filter_tokens (h : ∀ t ∈ block.tokens, t ≠ "") :
    block.tokens.filter (· ≠ "") = block.tokens :=
  List.filter_eq_self.2 fun t ht => decide_eq_true (h t ht)

/-- A token that is empty is in no block. -/
theorem CutInto.skip (h : CutInto switches ts bs) : CutInto switches ("" :: ts) bs where
  covers := by rw [h.covers, List.filter_cons_of_neg (by simp)]
  starts front block back hsplit := by
    obtain ⟨before, first, after, rfl, hfront, hstart⟩ := h.starts front block back hsplit
    refine ⟨"" :: before, first, after, rfl, ?_, hstart⟩
    rw [hfront, List.filter_cons_of_neg (by simp)]

/-- A block is put in front. -/
theorem CutInto.cons (block : Block) (h : CutInto switches ts bs)
    (hblock : ∀ t ∈ block.tokens, t ≠ "") (hfirst : block.tokens ++ ts = first :: after)
    (hpair : (∃ flag value, block = .pair flag value) ↔
      TakesValue switches first ∧ ∃ next ∈ after.head?, IsValue next) :
    CutInto switches (block.tokens ++ ts) (block :: bs) where
  covers := by
    rw [List.flatMap_cons, h.covers, List.filter_append, Block.filter_tokens hblock]
  starts front block' back hsplit := by
    rcases List.cons_eq_append_iff.1 hsplit with ⟨rfl, hhead⟩ | ⟨front', rfl, htail⟩
    · cases hhead
      refine ⟨[], first, after, hfirst, rfl, ?_, hpair⟩
      have hhead := congrArg List.head? hfirst
      cases block <;> exact hhead
    · obtain ⟨before, first', after', rfl, hfront, hstart⟩ := h.starts front' block' back htail
      refine ⟨block.tokens ++ before, first', after', (List.append_assoc ..).symm, ?_, hstart⟩
      rw [List.flatMap_cons, hfront, List.filter_append, Block.filter_tokens hblock]

theorem CutInto.single (h : CutInto switches ts bs) (hne : token ≠ "")
    (hapart : ¬(TakesValue switches token ∧ ∃ next ∈ ts.head?, IsValue next)) :
    CutInto switches (token :: ts) (.single token :: bs) :=
  .cons (.single token) h (List.forall_mem_singleton.2 hne) rfl (iff_of_false nofun hapart)

theorem CutInto.pair (h : CutInto switches ts bs) (hne : flag ≠ "")
    (hflag : TakesValue switches flag) (hvalue : IsValue value) :
    CutInto switches (flag :: value :: ts) (.pair flag value :: bs) :=
  .cons (.pair flag value) h
    (List.forall_mem_cons.2 ⟨hne, List.forall_mem_singleton.2 hvalue.ne_empty⟩) rfl
    (iff_of_true ⟨flag, value, rfl⟩ ⟨hflag, value, rfl, hvalue⟩)

/-- Tokens are cut into their blocks. -/
theorem cutInto_blocks (switches tokens : List String) :
    CutInto switches tokens (blocks switches tokens) := by
  fun_induction blocks switches tokens with
  | case1 => exact .nil
  | case2 => exact .skip .nil
  | case3 token hne => exact .single .nil hne fun ⟨_, _, hnext, _⟩ => Option.not_mem_none _ hnext
  | case4 next rest ih => exact ih.skip
  | case5 token next rest hne hjoin ih =>
    rw [Bool.and_eq_true, takesValue_iff, isValue_iff] at hjoin
    exact ih.pair hne hjoin.1 hjoin.2
  | case6 token next rest hne hjoin ih =>
    rw [Bool.and_eq_true, takesValue_iff, isValue_iff] at hjoin
    refine ih.single hne ?_
    rintro ⟨htakes, _, ⟨⟩, hvalue⟩
    exact hjoin ⟨htakes, hvalue⟩

/-! ### The canonical form -/

theorem normalize_eq_map_text (switches tokens : List String) : normalize switches tokens =
    ((blocks switches (tokens.map Text.trim)).map Block.text).eraseDups := by
  rw [normalize, joinValues_eq_map_text, dedup_eq_eraseDups]

/-- The trimmed arguments are cut into blocks, of which the canonical form keeps each once. So it
has no argument twice, and each is trimmed and not empty. -/
theorem exists_cutInto_normalize (switches tokens : List String) :
    (∃ bs, CutInto switches (tokens.map Text.trim) bs ∧
      normalize switches tokens = (bs.map Block.text).eraseDups) ∧
    (normalize switches tokens).Nodup ∧
    ∀ t ∈ normalize switches tokens, t ≠ "" ∧ Text.Trimmed t := by
  have hcanonical := canonical_normalize switches tokens
  refine ⟨⟨_, cutInto_blocks _ _, normalize_eq_map_text _ _⟩, hcanonical.nodup, fun t ht => ?_⟩
  have htidy := hcanonical.tidy t ht
  exact ⟨htidy.ne_empty, htidy.trimmed⟩

/-- A blank token parts a flag from its value, and a switch takes none. -/
example : blocks ["--v"] ["--a", "1", "--b", "", "2", "--v", "3"] =
    [.pair "--a" "1", .single "--b", .single "2", .single "--v", .single "3"] := by decide

end FleetConfig.Flag
