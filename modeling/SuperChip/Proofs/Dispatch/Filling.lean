import SuperChip.Proofs.Dispatch.Agreement

set_option autoImplicit false

namespace SuperChip.Rule

/-- The loop of a rule from `bits` and a table on: the words that its turns visit and the table that
it leaves. It tests for the end after the word is bound. -/
inductive Fills (rule : Rule) : Word → Table → List Word → Table → Prop
  | last {bits : Word} {table : Table} :
      bits = ~~~rule.mask →
      Fills rule bits table [rule.pattern ||| bits] (table.bind (rule.pattern ||| bits) rule.entry)
  | next {bits : Word} {table filled : Table} {visited : List Word} :
      bits ≠ ~~~rule.mask →
      Fills rule ((bits - ~~~rule.mask) &&& ~~~rule.mask)
        (table.bind (rule.pattern ||| bits) rule.entry) visited filled →
      Fills rule bits table ((rule.pattern ||| bits) :: visited) filled

/-- How many bits the mask ignores. -/
def ignored (rule : Rule) : Nat :=
  (List.range 16).countP fun place => !rule.mask.toNat.testBit place

theorem Fills.unique {rule : Rule} {bits : Word} {table filled otherFilled : Table}
    {visited otherVisited : List Word} (fills : rule.Fills bits table visited filled)
    (others : rule.Fills bits table otherVisited otherFilled) :
    otherVisited = visited ∧ otherFilled = filled := by
  induction fills generalizing otherVisited otherFilled with
  | last ended =>
    cases others with
    | last _ => exact ⟨rfl, rfl⟩
    | next goesOn _ => exact absurd ended goesOn
  | next goesOn _ ih =>
    cases others with
    | last ended => exact absurd ended goesOn
    | next _ rest =>
      obtain ⟨rfl, rfl⟩ := ih rest
      exact ⟨rfl, rfl⟩

/-- No subset follows the set of all free bits, and one follows every other subset. -/
theorem lt_next_iff {free bits : Word} (chosen : bits &&& free = bits) :
    bits < (bits - free) &&& free ↔ bits ≠ free := by
  constructor
  · rintro later rfl
    rw [UInt16.sub_self, UInt16.zero_and] at later
    exact absurd later UInt16.not_lt_zero
  · intro more
    have inside : bits ≤ free := chosen ▸ UInt16.and_le_right
    exact (next_word chosen (UInt16.and_self) (UInt16.lt_of_le_of_ne inside more)).1

/-- The loop visits what the enumeration lists. The induction is along the enumeration, whose test
for the end is a comparison. -/
theorem fills_from (rule : Rule) {bits : Word} (table : Table)
    (chosen : bits &&& ~~~rule.mask = bits) :
    rule.Fills bits table ((subsetsFrom (~~~rule.mask) bits).map (rule.pattern ||| ·))
      (((subsetsFrom (~~~rule.mask) bits).map (rule.pattern ||| ·)).foldl
        (fun table word => table.bind word rule.entry) table) := by
  induction bits using subsetsFrom.induct (~~~rule.mask) generalizing table with
  | case1 bits later ih =>
    rw [subsetsFrom, if_pos later]
    exact .next ((lt_next_iff chosen).mp later)
      (ih _ (by rw [UInt16.and_assoc, UInt16.and_self]))
  | case2 bits ended =>
    rw [subsetsFrom, if_neg ended]
    exact .last (Decidable.not_not.mp (mt (lt_next_iff chosen).mpr ended))

/-- The loop from zero ends, whatever the mask. -/
theorem fills_words (rule : Rule) (table : Table) :
    rule.Fills 0 table rule.words (table.fill rule) :=
  rule.fills_from table UInt16.zero_and

theorem pairwise_subsetsFrom {free bits : Word} (chosen : bits &&& free = bits) :
    (subsetsFrom free bits).Pairwise (· < ·) := by
  induction bits using subsetsFrom.induct free with
  | case1 bits later ih =>
    have subset : ((bits - free) &&& free) &&& free = (bits - free) &&& free := by
      rw [UInt16.and_assoc, UInt16.and_self]
    rw [subsetsFrom, if_pos later, List.pairwise_cons]
    refine ⟨fun word listed => ?_, ih subset⟩
    exact UInt16.lt_of_lt_of_le later ((mem_subsetsFrom subset).mp listed).2
  | case2 bits ended =>
    rw [subsetsFrom, if_neg ended]
    exact List.pairwise_singleton _ _

theorem land_eq_self_iff (bits free : Nat) :
    bits &&& free = bits ↔ ∀ place, bits.testBit place → free.testBit place := by
  constructor
  · intro chosen place set
    rw [← chosen, Nat.testBit_and, Bool.and_eq_true] at set
    exact set.2
  · intro inside
    apply Nat.eq_of_testBit_eq
    intro place
    rw [Nat.testBit_and, Bool.and_eq_left_iff_imp]
    exact inside place

/-- With a bit more on top, the bits are a subset if that bit is free and the others are one. -/
theorem land_top_eq_iff {width bits : Nat} (free : Nat) (inside : bits < 2 ^ width) :
    (2 ^ width + bits) &&& free = 2 ^ width + bits ↔ free.testBit width ∧ bits &&& free = bits := by
  have above {place : Nat} (high : width ≤ place) : bits.testBit place = false :=
    Nat.testBit_lt_two_pow (Nat.lt_of_lt_of_le inside (Nat.pow_le_pow_right Nat.two_pos high))
  have top : (2 ^ width + bits).testBit width = true := by
    rw [Nat.testBit_two_pow_add_eq, above (Nat.le_refl _)]
    rfl
  simp only [land_eq_self_iff]
  constructor
  · intro chosen
    refine ⟨chosen width top, fun place set => chosen place ?_⟩
    rcases Nat.lt_or_ge place width with low | high
    · rwa [Nat.testBit_two_pow_add_gt low]
    · rw [above high] at set
      contradiction
  · rintro ⟨free, chosen⟩ place set
    rcases Nat.lt_trichotomy place width with low | rfl | high
    · rw [Nat.testBit_two_pow_add_gt low] at set
      exact chosen place set
    · exact free
    · have small : 2 ^ width + bits < 2 ^ (width + 1) := by
        rw [Nat.pow_succ]
        omega
      rw [Nat.testBit_lt_two_pow
        (Nat.lt_of_lt_of_le small (Nat.pow_le_pow_right Nat.two_pos high))] at set
      contradiction

theorem countP_subsets (free width : Nat) :
    (List.range (2 ^ width)).countP (fun bits => bits &&& free = bits) =
      2 ^ (List.range width).countP free.testBit := by
  induction width with
  | zero => simp
  | succ width ih =>
    have upper : ((List.range (2 ^ width)).map (2 ^ width + ·)).countP
        (fun bits => bits &&& free = bits) =
          if free.testBit width then 2 ^ (List.range width).countP free.testBit else 0 := by
      rw [List.countP_map, ← ih]
      split
      · next isFree =>
        apply List.countP_congr
        intro bits listed
        simp [land_top_eq_iff free (List.mem_range.mp listed), isFree]
      · next isFixed =>
        apply List.countP_eq_zero.mpr
        intro bits listed
        simp [land_top_eq_iff free (List.mem_range.mp listed), isFixed]
    rw [Nat.pow_succ, Nat.mul_two, List.range_add, List.countP_append, ih, upper, List.range_succ,
      List.countP_append, List.countP_singleton]
    split
    · rw [Nat.pow_succ, Nat.mul_two]
    · rfl

theorem testBit_toNat_not (word : Word) {place : Nat} (inside : place < 16) :
    (~~~word).toNat.testBit place = !word.toNat.testBit place := by
  change (~~~word).toBitVec.getLsbD place = !word.toBitVec.getLsbD place
  simp [inside]

/-- The loop takes a turn for each way of setting the bits that the mask ignores. -/
theorem length_words (rule : Rule) : rule.words.length = 2 ^ rule.ignored := by
  have ordered : (subsetsFrom (~~~rule.mask) 0).Pairwise (· < ·) :=
    pairwise_subsetsFrom UInt16.zero_and
  have listed : ((subsetsFrom (~~~rule.mask) 0).map UInt16.toNat).Perm
      ((List.range (2 ^ 16)).filter fun bits => bits &&& (~~~rule.mask).toNat = bits) := by
    refine (List.perm_ext_iff_of_nodup ?_ ?_).mpr fun bits => ?_
    · refine List.pairwise_map.mpr (ordered.imp fun less => ?_)
      exact Nat.ne_of_lt (UInt16.lt_iff_toNat_lt.mp less)
    · exact List.nodup_range.sublist List.filter_sublist
    · simp only [List.mem_map, mem_subsetsFrom UInt16.zero_and, List.mem_filter, List.mem_range,
        decide_eq_true_eq]
      constructor
      · rintro ⟨word, ⟨subset, -⟩, rfl⟩
        exact ⟨word.toNat_lt, by rw [← UInt16.toNat_and, subset]⟩
      · rintro ⟨small, subset⟩
        have same : (UInt16.ofNat bits).toNat = bits := UInt16.toNat_ofNat_of_lt small
        refine ⟨UInt16.ofNat bits, ⟨?_, UInt16.zero_le⟩, same⟩
        rw [← UInt16.toNat_inj, UInt16.toNat_and, same, subset]
  have free : (List.range 16).countP (~~~rule.mask).toNat.testBit = rule.ignored := by
    apply List.countP_congr
    intro place inside
    rw [testBit_toNat_not rule.mask (List.mem_range.mp inside)]
  rw [words, List.length_map, ← List.length_map UInt16.toNat, listed.length_eq,
    ← List.countP_eq_length_filter, countP_subsets, free]

/-- The chosen bits can be read off a word, as the pattern has none of them. -/
theorem chosen_of_joined {pattern bits mask : Word} (clean : pattern &&& ~~~mask = 0)
    (subset : bits &&& ~~~mask = bits) : (pattern ||| bits) &&& ~~~mask = bits := by
  apply UInt16.toNat_inj.mp
  rw [UInt16.toNat_and, UInt16.toNat_or, Nat.and_or_distrib_right, ← UInt16.toNat_and,
    ← UInt16.toNat_and, clean, subset, UInt16.toNat_zero, Nat.zero_or]

theorem nodup_words {rule : Rule} (clean : rule.pattern &&& ~~~rule.mask = 0) :
    rule.words.Nodup := by
  refine List.pairwise_map.mpr ((pairwise_subsetsFrom UInt16.zero_and).imp_of_mem ?_)
  intro left right leftListed rightListed less same
  have leftSubset := ((mem_subsetsFrom UInt16.zero_and).mp leftListed).1
  have rightSubset := ((mem_subsetsFrom UInt16.zero_and).mp rightListed).1
  have equal : left = right := by
    rw [← chosen_of_joined clean leftSubset, same, chosen_of_joined clean rightSubset]
  exact UInt16.ne_of_lt less equal

/-- What the loop of a rule does to a table, however it is run: it ends, it takes a turn for each
way of setting the ignored bits, and it visits each word that matches once and no other. -/
structure VisitsMatching (rule : Rule) (table : Table) : Prop where
  ends : ∃ visited filled, rule.Fills 0 table visited filled
  turns : ∀ visited filled, rule.Fills 0 table visited filled →
    visited.length = 2 ^ rule.ignored
  once : ∀ visited filled, rule.Fills 0 table visited filled → visited.Nodup
  matching : ∀ visited filled, rule.Fills 0 table visited filled →
    ∀ word, word ∈ visited ↔ rule.Matches word

theorem visitsMatching {rule : Rule} (clean : rule.pattern &&& ~~~rule.mask = 0) (table : Table) :
    rule.VisitsMatching table where
  ends := ⟨_, _, rule.fills_words table⟩
  turns visited filled fills := by
    rw [((rule.fills_words table).unique fills).1, length_words]
  once visited filled fills := by
    rw [((rule.fills_words table).unique fills).1]
    exact nodup_words clean
  matching visited filled fills word := by
    rw [((rule.fills_words table).unique fills).1, mem_words clean]

end SuperChip.Rule

namespace SuperChip.Table

/-- The table in which every word is illegal. -/
def blank : Table := Vector.replicate 65536 Entry.illegal

/-- The loops of the rules, one after another, from one table to another. -/
inductive FillsAll : List Rule → Table → Table → Prop
  | done {table : Table} : FillsAll [] table table
  | rule {rule : Rule} {rest : List Rule} {table between filled : Table} {visited : List Word} :
      rule.Fills 0 table visited between →
      FillsAll rest between filled →
      FillsAll (rule :: rest) table filled

theorem fillsAll_iff (rules : List Rule) (table filled : Table) :
    FillsAll rules table filled ↔ filled = rules.foldl fill table := by
  induction rules generalizing table with
  | nil =>
    constructor
    · rintro ⟨⟩
      rfl
    · rintro rfl
      exact .done
  | cons rule rest ih =>
    rw [List.foldl_cons, ← ih]
    constructor
    · rintro (_ | ⟨fills, others⟩)
      rwa [((rule.fills_words table).unique fills).2] at others
    · exact .rule (rule.fills_words table)

/-- Whether each word has the entry of the last rule that matches it, and the illegal entry if none
does. -/
structure LastRuleWins (rules : List Rule) (table : Table) : Prop where
  matched : ∀ before rule after word, rules = before ++ rule :: after →
    rule.Matches word → (∀ later ∈ after, ¬ later.Matches word) → table.lookup word = rule.entry
  unmatched : ∀ word, (∀ rule ∈ rules, ¬ rule.Matches word) → table.lookup word = Entry.illegal

theorem lastRuleWins_ofRules {rules : List Rule}
    (clean : ∀ rule ∈ rules, rule.pattern &&& ~~~rule.mask = 0) :
    LastRuleWins rules (ofRules rules) where
  matched before rule after word split fits last := by
    have noLater : (after.reverse.find? fun later => later.Matches word) = none := by
      simpa using last
    rw [lookup_ofRules clean, split, List.reverse_append, List.reverse_cons, List.append_assoc,
      List.find?_append, noLater]
    simp [fits]
  unmatched word unfit := by
    have missing : (rules.reverse.find? fun rule => rule.Matches word) = none := by
      simpa using unfit
    rw [lookup_ofRules clean, missing]
    rfl

/-- Filling the blank table from rules whose patterns have no bit that their masks ignore: each loop
ends after a turn for each way of setting the ignored bits and visits exactly the words that match,
and the loops together leave one table, in which the last rule that matches wins. -/
theorem last_matching_rule_wins {rules : List Rule}
    (clean : ∀ rule ∈ rules, rule.pattern &&& ~~~rule.mask = 0) :
    (∀ rule ∈ rules, ∀ table, rule.VisitsMatching table) ∧
      (∃ filled, FillsAll rules blank filled) ∧
      ∀ filled, FillsAll rules blank filled → filled = ofRules rules ∧ LastRuleWins rules filled := by
  refine ⟨fun rule listed => Rule.visitsMatching (clean rule listed),
    ⟨_, (fillsAll_iff _ _ _).mpr rfl⟩, fun filled fills => ?_⟩
  have same : filled = ofRules rules := (fillsAll_iff _ _ _).mp fills
  exact ⟨same, same ▸ lastRuleWins_ofRules clean⟩

/-- Two rules that overlap: the later one has the words that match both, and only those. -/
theorem last_matching_rule_wins_overlapping :
    let draw := Rule.of 0xF000 0xD000 .draw fun w s _ => s.draw w.x w.y w.n
    let drawWide := Rule.of 0xF00F 0xD000 .drawWide fun w s _ => s.drawWide w.x w.y
    (∀ rule ∈ [draw, drawWide], rule.pattern &&& ~~~rule.mask = 0) ∧
      (∃ filled, FillsAll [draw, drawWide] blank filled) ∧
      ∀ filled, FillsAll [draw, drawWide] blank filled →
        filled.lookup 0xD125 = draw.entry ∧ filled.lookup 0xD120 = drawWide.entry ∧
          filled.lookup 0x00E0 = Entry.illegal := by
  intro draw drawWide
  have clean : ∀ rule ∈ [draw, drawWide], rule.pattern &&& ~~~rule.mask = 0 := by decide
  obtain ⟨-, ends, wins⟩ := last_matching_rule_wins clean
  refine ⟨clean, ends, fun filled fills => ?_⟩
  obtain ⟨-, last⟩ := wins filled fills
  refine ⟨?_, ?_, ?_⟩
  · exact last.matched [] draw [drawWide] 0xD125 rfl (by decide) (by decide)
  · exact last.matched [draw] drawWide [] 0xD120 rfl (by decide) (by decide)
  · exact last.unmatched 0x00E0 (by decide)

end SuperChip.Table
