import SuperChip.Proofs.Decoding
import SuperChip.Proofs.Dispatch.Words

set_option autoImplicit false

namespace SuperChip

theorem Word.nibble_and (left right : Word) (place : Fin 4) :
    (left &&& right).nibble place = left.nibble place &&& right.nibble place := by
  apply Fin.ext
  have power : Nat.pow 16 place.val = 2 ^ (4 * place.val) := by
    rw [Nat.pow_mul]
    rfl
  simp only [Word.nibble, Fin.ofNat, Fin.and_val, UInt16.toNat_and, power]
  rw [Nat.and_div_two_pow, ← Nat.and_mod_two_pow (n := 4)]

namespace Table

theorem lookup_bind (table : Table) (bound word : Word) (entry : Entry) :
    (table.bind bound entry).lookup word = if word = bound then entry else table.lookup word := by
  simp only [lookup, bind, Fin.getElem_fin, Vector.getElem_set, UInt16.toNat_inj, eq_comm]

theorem lookup_bindAll (table : Table) (words : List Word) (entry : Entry) (word : Word) :
    (words.foldl (fun table word => table.bind word entry) table).lookup word =
      if word ∈ words then entry else table.lookup word := by
  induction words generalizing table with
  | nil => simp
  | cons bound rest ih =>
    rw [List.foldl_cons, ih, lookup_bind]
    by_cases listed : word ∈ rest
    · rw [if_pos listed, if_pos (List.mem_cons_of_mem _ listed)]
    · simp [listed]

theorem lookup_fill (table : Table) {rule : Rule} (clean : rule.pattern &&& ~~~rule.mask = 0)
    (word : Word) :
    (table.fill rule).lookup word = if rule.Matches word then rule.entry else table.lookup word := by
  rw [fill, lookup_bindAll]
  simp only [Rule.mem_words clean]

theorem lookup_fillAll (table : Table) {rules : List Rule}
    (clean : ∀ rule ∈ rules, rule.pattern &&& ~~~rule.mask = 0) (word : Word) :
    (rules.foldl fill table).lookup word =
      ((rules.reverse.find? fun rule => rule.Matches word).map Rule.entry).getD
        (table.lookup word) := by
  induction rules generalizing table with
  | nil => rfl
  | cons rule rest ih =>
    have cleanRest := fun later listed => clean later (List.mem_cons_of_mem _ listed)
    rw [List.foldl_cons, ih _ cleanRest, lookup_fill table (clean rule List.mem_cons_self),
      List.reverse_cons, List.find?_append]
    cases rest.reverse.find? fun rule => rule.Matches word with
    | some later => rfl
    | none => by_cases fits : rule.Matches word <;> simp [fits]

/-- A table holds the entry of the last rule that matches, and the illegal entry if none does. -/
theorem lookup_ofRules {rules : List Rule}
    (clean : ∀ rule ∈ rules, rule.pattern &&& ~~~rule.mask = 0) (word : Word) :
    (ofRules rules).lookup word =
      ((rules.reverse.find? fun rule => rule.Matches word).map Rule.entry).getD .illegal := by
  have blank : lookup (Vector.replicate 65536 Entry.illegal) word = .illegal := by
    simp only [lookup, Fin.getElem_fin, Vector.getElem_replicate]
  rw [ofRules, lookup_fillAll _ clean, blank]

end Table

/-- Whether an entry stands for an instruction when `word` runs it. -/
def Entry.Runs (entry : Entry) (word : Word) (instruction : Instruction) : Prop :=
  entry.mnemonic = instruction.mnemonic ∧ entry.run word = instruction.execute

namespace Rule

theorem matches_of (mask pattern : Word) (mnemonic : Mnemonic)
    (run : Word → State → Held → Executed) (word : Word) :
    (of mask pattern mnemonic run).Matches word ↔
      word.family &&& Fin.ofNat 16 (mask.toNat / 4096) = Fin.ofNat 16 (pattern.toNat / 4096) ∧
      word.x &&& Fin.ofNat 16 (mask.toNat / 256) = Fin.ofNat 16 (pattern.toNat / 256) ∧
      word.y &&& Fin.ofNat 16 (mask.toNat / 16) = Fin.ofNat 16 (pattern.toNat / 16) ∧
      word.n &&& Fin.ofNat 16 mask.toNat = Fin.ofNat 16 pattern.toNat := by
  have last (other : Word) : Fin.ofNat 16 other.toNat = other.n := by
    have one : other.toNat / Nat.pow 16 0 = other.toNat := Nat.div_one _
    rw [Word.n, Word.nibble, Fin.val_zero, one]
  rw [last, last]
  change word &&& mask = pattern ↔ _
  rw [Word.eq_iff_nibbles]
  simp only [Word.family, Word.x, Word.y, Word.n, Word.nibble_and]
  exact Iff.rfl

theorem and_zero (nibble : Fin 16) : nibble &&& 0 = 0 := by
  revert nibble
  decide

theorem and_fifteen (nibble : Fin 16) : nibble &&& 15 = nibble := by
  revert nibble
  decide

theorem and_eight (nibble : Fin 16) : nibble &&& 8 = 0 ↔ nibble ≤ 7 := by
  revert nibble
  decide

theorem clean_ofMode (mode : Mode) :
    ∀ rule ∈ ofMode mode, rule.pattern &&& ~~~rule.mask = 0 := by
  cases mode <;> decide

/-- What a rule of the extended set runs is what Super-CHIP reads. -/
theorem runs_extended {word : Word} :
    ∀ rule ∈ extended ++ [guard], rule.Matches word →
      rule.entry.Runs word (word.decode .superChip) := by
  simp only [extended, guard, List.cons_append, List.nil_append, List.forall_mem_cons,
    List.not_mem_nil, matches_of, Word.decode_eq_byFamily]
  simp [and_zero, and_fifteen, and_eight]
  and_intros
  all_goals
    intros
    simp only [Word.decodeByFamily, Word.decodeSystem, Word.decodeDevice, and_self, if_true, *]
    exact ⟨rfl, rfl⟩

/-- What a rule of the basic set runs is what is read in either set, unless the extended set has a
rule for the word. -/
theorem runs_basic {mode : Mode} {word : Word}
    (narrow : mode = .superChip → ∀ rule ∈ extended, ¬ rule.Matches word) :
    ∀ rule ∈ basic ++ [guard], rule.Matches word → rule.entry.Runs word (word.decode mode) := by
  have drawn : word.family = 13 → ¬ (mode = .superChip ∧ word.n = 0) := by
    rintro family ⟨superChip, rows⟩
    refine narrow superChip (.of 0xF00F 0xD000 .drawWide fun w s _ => s.drawWide w.x w.y) ?_ ?_
    · simp [extended]
    · simp [matches_of, and_zero, and_fifteen, family, rows]
  clear narrow
  simp only [basic, guard, List.cons_append, List.nil_append, List.forall_mem_cons,
    List.not_mem_nil, matches_of, Word.decode_eq_byFamily]
  simp [and_zero, and_fifteen]
  and_intros
  all_goals
    intros
    simp only [Word.decodeByFamily, Word.decodeSystem, Word.decodeArithmetic, Word.decodeKey,
      Word.decodeDevice, if_true, if_false, *]
    exact ⟨rfl, rfl⟩

theorem decode_of_unmatched {mode : Mode} {word : Word}
    (none : ∀ rule ∈ ofMode mode, ¬ rule.Matches word) : word.decode mode = .illegal word := by
  have basicNone : ∀ rule ∈ basic ++ [guard], ¬ rule.Matches word := by
    intro rule listed
    refine none rule ?_
    cases mode <;> grind [ofMode]
  have extendedNone : mode = .superChip → ∀ rule ∈ extended, ¬ rule.Matches word := by
    rintro rfl rule listed
    exact none rule (by grind [ofMode])
  clear none
  simp only [basic, extended, guard, List.cons_append, List.nil_append, List.forall_mem_cons,
    List.not_mem_nil, matches_of] at basicNone extendedNone
  simp [and_zero, and_fifteen, and_eight] at basicNone extendedNone
  simp only [Word.decode_eq_byFamily, Word.decodeByFamily, Word.decodeSystem,
    Word.decodeArithmetic, Word.decodeKey, Word.decodeDevice]
  repeat' split
  all_goals first | rfl | (exfalso; grind)

/-- The last matching rule runs the instruction that is read. -/
theorem runs_last (mode : Mode) (word : Word) :
    (((ofMode mode).reverse.find? fun rule => rule.Matches word).map Rule.entry).getD .illegal
      |>.Runs word (word.decode mode) := by
  cases found : (ofMode mode).reverse.find? fun rule => rule.Matches word with
  | none =>
    have none : ∀ rule ∈ ofMode mode, ¬ rule.Matches word := by
      simpa only [List.find?_eq_none, List.mem_reverse, decide_eq_true_eq] using found
    rw [decode_of_unmatched none]
    exact ⟨rfl, rfl⟩
  | some rule =>
    have fits : rule.Matches word := by simpa using List.find?_some found
    cases mode with
    | chip8 =>
      have listed := List.mem_reverse.mp (List.mem_of_find?_eq_some found)
      exact runs_basic (fun extended => by cases extended) rule listed fits
    | superChip =>
      -- The extended rules come later, so they are asked first.
      have order : (ofMode .superChip).reverse = (extended ++ [guard]).reverse ++ basic.reverse := by
        simp only [ofMode, List.append_assoc, List.reverse_append]
      rw [order, List.find?_append, Option.or_eq_some_iff] at found
      rcases found with later | ⟨none, earlier⟩
      · exact runs_extended rule (List.mem_reverse.mp (List.mem_of_find?_eq_some later)) fits
      · have listed := List.mem_reverse.mp (List.mem_of_find?_eq_some earlier)
        refine runs_basic (fun _ => ?_) rule (List.mem_append_left _ listed) fits
        intro wide extendedListed matched
        rw [List.find?_eq_none] at none
        refine none wide ?_ (decide_eq_true matched)
        exact List.mem_reverse.mpr (List.mem_append_left _ extendedListed)

end Rule

/-- The table's entry for a word runs the instruction that the decoder reads. -/
theorem Table.runs_lookup (mode : Mode) (word : Word) :
    ((Table.ofMode mode).lookup word).Runs word (word.decode mode) := by
  have filled : Table.ofMode mode = Table.ofRules (Rule.ofMode mode) := by cases mode <;> rfl
  rw [filled, Table.lookup_ofRules (Rule.clean_ofMode mode)]
  exact Rule.runs_last mode word

/-- Both strategies resolve a word to the mnemonic and the step of the decoded instruction. -/
theorem Strategy.resolve_eq (strategy : Strategy) (mode : Mode) (word : Word) :
    strategy.resolve mode word = ((word.decode mode).mnemonic, (word.decode mode).execute) := by
  cases strategy with
  | interpreter => rfl
  | table =>
    obtain ⟨mnemonic, run⟩ := Table.runs_lookup mode word
    exact Prod.ext mnemonic run

end SuperChip
