import SuperChip.Execution

set_option autoImplicit false

/-!
The table is filled from rules, a mask and a pattern each, that bind all words agreeing with the pattern
under the mask. Rules are applied in order, and a later one overwrites an earlier one.
-/

namespace SuperChip

/-- A mnemonic and the step that a word with this mnemonic runs. -/
structure Entry where
  mnemonic : Mnemonic
  run : Word → State → Held → Executed

namespace Entry

/-- The entry of a word that no rule matches. -/
def illegal : Entry := ⟨.illegal, fun word state _ => state.illegal word⟩

end Entry

/-- Binds the words that agree with `pattern` under `mask`. -/
structure Rule where
  mask : Word
  pattern : Word
  entry : Entry

namespace Rule

def of (mask pattern : Word) (mnemonic : Mnemonic) (run : Word → State → Held → Executed) : Rule :=
  ⟨mask, pattern, mnemonic, run⟩

def Matches (rule : Rule) (word : Word) : Prop := word &&& rule.mask = rule.pattern

instance (rule : Rule) (word : Word) : Decidable (rule.Matches word) :=
  inferInstanceAs (Decidable (_ = _))

/-- The subsets of the bits of `free` from `bits` on, in ascending order. Subtracting all free bits
adds one to the number that the chosen ones spell, and carries over the others. -/
def subsetsFrom (free bits : Word) : List Word :=
  if bits < (bits - free) &&& free then bits :: subsetsFrom free ((bits - free) &&& free)
  else [bits]
termination_by 65536 - bits.toNat
decreasing_by
  rename_i later
  have bound := ((bits - free) &&& free).toNat_lt
  have order := UInt16.lt_iff_toNat_lt.mp later
  omega

/-- The words a rule binds, in ascending order of the bits it leaves free. -/
def words (rule : Rule) : List Word := (subsetsFrom (~~~rule.mask) 0).map (rule.pattern ||| ·)

/-- The rules of the basic instruction set. -/
def basic : List Rule := [
  of 0xFFFF 0x00E0 .clearScreen fun _ s _ => s.clearScreen,
  of 0xFFFF 0x00EE .ret fun _ s _ => s.ret,
  of 0xF000 0x1000 .jump fun w s _ => s.jump w.address,
  of 0xF000 0x2000 .call fun w s _ => s.call w.address,
  of 0xF000 0x3000 .skipIfByte fun w s _ => s.skipIf (s.register w.x == w.byte),
  of 0xF000 0x4000 .skipUnlessByte fun w s _ => s.skipIf (s.register w.x != w.byte),
  of 0xF00F 0x5000 .skipIfSame fun w s _ => s.skipIf (s.register w.x == s.register w.y),
  of 0xF000 0x6000 .setByte fun w s _ => s.setByte w.x w.byte,
  of 0xF000 0x7000 .addByte fun w s _ => s.addByte w.x w.byte,
  of 0xF00F 0x8000 .copy fun w s _ => s.copy w.x w.y,
  of 0xF00F 0x8001 .or fun w s _ => s.or w.x w.y,
  of 0xF00F 0x8002 .and fun w s _ => s.and w.x w.y,
  of 0xF00F 0x8003 .xor fun w s _ => s.xor w.x w.y,
  of 0xF00F 0x8004 .add fun w s _ => s.add w.x w.y,
  of 0xF00F 0x8005 .subtract fun w s _ => s.subtract w.x w.y,
  of 0xF00F 0x8006 .shiftRight fun w s _ => s.shiftRight w.x w.y,
  of 0xF00F 0x8007 .subtractFrom fun w s _ => s.subtractFrom w.x w.y,
  of 0xF00F 0x800E .shiftLeft fun w s _ => s.shiftLeft w.x w.y,
  of 0xF00F 0x9000 .skipUnlessSame fun w s _ => s.skipIf (s.register w.x != s.register w.y),
  of 0xF000 0xA000 .setIndex fun w s _ => s.setIndex w.address,
  of 0xF000 0xB000 .jumpOffset fun w s _ => s.jumpOffset w.x w.address,
  of 0xF000 0xC000 .random fun w s _ => s.random w.x w.byte,
  of 0xF000 0xD000 .draw fun w s _ => s.draw w.x w.y w.n,
  of 0xF0FF 0xE09E .skipIfKey fun w s held => s.skipIf (held (Key.ofByte (s.register w.x))),
  of 0xF0FF 0xE0A1 .skipUnlessKey fun w s held => s.skipIf (!held (Key.ofByte (s.register w.x))),
  of 0xF0FF 0xF007 .readDelay fun w s _ => s.readDelay w.x,
  of 0xF0FF 0xF00A .awaitKey fun w s _ => s.awaitKey w.x,
  of 0xF0FF 0xF015 .setDelay fun w s _ => s.setDelay w.x,
  of 0xF0FF 0xF018 .setSound fun w s _ => s.setSound w.x,
  of 0xF0FF 0xF01E .addIndex fun w s _ => s.addIndex w.x,
  of 0xF0FF 0xF029 .glyph fun w s _ => s.glyph w.x,
  of 0xF0FF 0xF033 .decimal fun w s _ => s.decimal w.x,
  of 0xF0FF 0xF055 .store fun w s _ => s.store w.x,
  of 0xF0FF 0xF065 .load fun w s _ => s.load w.x]

/-- The rules that Super-CHIP adds. -/
def extended : List Rule := [
  of 0xFFF0 0x00C0 .scrollDown fun w s _ => s.scrollDown w.n,
  of 0xFFFF 0x00FB .scrollRight fun _ s _ => s.scrollRight,
  of 0xFFFF 0x00FC .scrollLeft fun _ s _ => s.scrollLeft,
  of 0xFFFF 0x00FD .exit fun _ s _ => s.exit,
  of 0xFFFF 0x00FE .lowResolution fun _ s _ => s.setGeometry .standard,
  of 0xFFFF 0x00FF .highResolution fun _ s _ => s.setGeometry .extended,
  of 0xF00F 0xD000 .drawWide fun w s _ => s.drawWide w.x w.y,
  of 0xF0FF 0xF030 .bigGlyph fun w s _ => s.bigGlyph w.x,
  of 0xF8FF 0xF075 .saveFlags fun w s _ => s.saveFlags w.x,
  of 0xF8FF 0xF085 .loadFlags fun w s _ => s.loadFlags w.x]

/-- The rule for the flow guard. -/
def guard : Rule := of 0xFFFF 0xFFFF .guard fun _ s _ => s.guard

/-- The rules of an instruction set, in the order in which they are applied. -/
def ofMode : Mode → List Rule
  | .chip8 => basic ++ [guard]
  | .superChip => basic ++ extended ++ [guard]

end Rule

abbrev Table := Vector Entry 65536

namespace Table

def lookup (table : Table) (word : Word) : Entry := table[(⟨word.toNat, word.toNat_lt⟩ : Fin 65536)]

def bind (table : Table) (word : Word) (entry : Entry) : Table :=
  table.set word.toNat entry word.toNat_lt

/-- Binds all words of a rule. -/
def fill (table : Table) (rule : Rule) : Table :=
  rule.words.foldl (fun table word => table.bind word rule.entry) table

def ofRules (rules : List Rule) : Table := rules.foldl fill (Vector.replicate 65536 Entry.illegal)

def chip8 : Table := ofRules (Rule.ofMode .chip8)

def superChip : Table := ofRules (Rule.ofMode .superChip)

def ofMode : Mode → Table
  | .chip8 => chip8
  | .superChip => superChip

end Table

/-- How a machine gets from a word to the step it runs. -/
inductive Strategy where
  /-- Decode the word and run the instruction. -/
  | interpreter
  /-- Look the word up in the dispatch table. -/
  | table
  deriving DecidableEq, Repr

namespace Strategy

def name : Strategy → String
  | interpreter => "Interpreter"
  | table => "Table"

/-- The mnemonic of a word and the step it runs. -/
def resolve (strategy : Strategy) (mode : Mode) (word : Word) :
    Mnemonic × (State → Held → Executed) :=
  match strategy with
  | interpreter =>
    let instruction := word.decode mode
    (instruction.mnemonic, instruction.execute)
  | table =>
    let entry := (Table.ofMode mode).lookup word
    (entry.mnemonic, entry.run word)

end Strategy

end SuperChip
