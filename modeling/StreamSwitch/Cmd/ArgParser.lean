import StreamSwitch.CString
import StreamSwitch.Lib.Getopt
import StreamSwitch.Strtol

/-!
# The parser of command lines

`stsw_arg_parser.cc`, with `ParseUnknown` of the parsers of the FFmpeg programs. `parse_items` says what
becomes of options that are registered.
-/

namespace StreamSwitch

namespace Cmd

open Getopt (Text HasArg Event Item)

/-! ## Numbers -/

/-- What `strtol` leaves of a text in base 0. -/
def strtolEnd (s : Text) : Text :=
  match (sign (s.dropWhile isSpace)).2 with
  | '0' :: c :: rest =>
    if c = 'x' ∨ c = 'X' then
      if rest.head?.any fun d => digitOf d < 16 then rest.dropWhile fun d => digitOf d < 16
      else c :: rest
    else (c :: rest).dropWhile fun d => digitOf d < 8
  | ['0'] => []
  | c :: rest => if digitOf c < 10 then rest.dropWhile fun d => digitOf d < 10 else s
  | [] => s

/-- `is_long`. -/
def isLong (s : Text) : Bool := strtolEnd s = []

/-- A number that is written in decimal, as a `long`. -/
def longOf (i : Int) : Int := max (min i (2 ^ 63 - 1)) (-2 ^ 63)

/-- A `long` as an `int`. -/
def intOf (i : Int) : Int := i.bmod (2 ^ 32)

/-- A `long` as a `short`. -/
def shortOf (i : Int) : Int := i.bmod (2 ^ 16)

theorem dropWhile_digits {base : Nat} (hbase : 10 ≤ base) (n : Nat) {c : Char} {cs : Text}
    (h : Nat.toDigits 10 n = c :: cs) : cs.dropWhile (fun d => digitOf d < base) = [] := by
  rw [List.dropWhile_eq_nil_iff]
  intro d hd
  have hmem : d ∈ Nat.toDigits 10 n := h ▸ List.mem_cons_of_mem _ hd
  have hlt := digitOf_lt (Nat.isDigit_of_mem_toDigits (by decide) (by decide) hmem)
  exact decide_eq_true (Nat.lt_of_lt_of_le hlt hbase)

/-- Behind the sign of a number. -/
theorem sign_decimal (i : Int) :
    sign ((decimal i).dropWhile isSpace) = (decide (i < 0), Nat.toDigits 10 i.natAbs) := by
  cases i with
  | ofNat n =>
    obtain ⟨c, cs, htext, hdigit, -⟩ := exists_toDigits n
    have hneg : decide (Int.ofNat n < 0) = false := decide_eq_false (Int.not_lt.2 (Int.natCast_nonneg n))
    rw [hneg, show decimal (Int.ofNat n) = _ from decimal_ofNat n, htext,
      List.dropWhile_cons_of_neg (by simp [isSpace_of_isDigit hdigit]), sign_cons_of_isDigit hdigit]
    exact Prod.ext rfl htext.symm
  | negSucc n =>
    rw [decimal_negSucc, List.dropWhile_cons_of_neg (by decide), decimal_ofNat]
    exact Prod.ext (decide_eq_true (Int.negSucc_lt_zero n)).symm rfl

theorem strtolEnd_decimal (i : Int) : strtolEnd (decimal i) = [] := by
  obtain ⟨c, cs, htext, hdigit, hzero⟩ := exists_toDigits i.natAbs
  have hten := dropWhile_digits (Nat.le_refl 10) i.natAbs htext
  unfold strtolEnd
  rw [sign_decimal, htext]
  dsimp only
  split
  · next c' rest' heq =>
    cases heq
    have hnat := hzero rfl
    rw [hnat] at htext
    cases htext
  · rfl
  · next heq =>
    cases heq
    rw [if_pos (digitOf_lt hdigit)]
    exact hten
  · next heq => cases heq

/-- `%d` writes a `long`. -/
theorem isLong_decimal (i : Int) : isLong (decimal i) = true := decide_eq_true (strtolEnd_decimal i)

/-- `strtol` reads what `%d` wrote, as far as a `long` goes. -/
theorem strtol_decimal (i : Int) : strtol 0 (decimal i) = longOf i := by
  have hnumber : leadingNumber (radix (Nat.toDigits 10 i.natAbs)).1
      (radix (Nat.toDigits 10 i.natAbs)).2 = i.natAbs := by
    obtain ⟨c, cs, htext, hdigit, hzero⟩ := exists_toDigits i.natAbs
    by_cases hc : c = '0'
    · rw [hzero hc]
      rfl
    · have hall : leadingNumber 10 (Nat.toDigits 10 i.natAbs ++ []) = i.natAbs :=
        leadingNumber_toDigits (by simp)
      rw [List.append_nil] at hall
      rw [htext, radix_cons_of_ne hc, ← htext]
      exact hall
  unfold strtol longOf
  rw [sign_decimal]
  dsimp only
  rw [if_pos rfl, hnumber]
  by_cases hneg : i < 0
  · rw [decide_eq_true hneg, if_pos rfl]
    omega
  · rw [decide_eq_false hneg, if_neg Bool.false_ne_true]
    omega

/-! ## Options -/

/-- `flags` of an option. -/
structure Flags where
  withArg : Bool := false
  optionalArg : Bool := false
  required : Bool := false
  long : Bool := false
  prefer : Bool := false
deriving DecidableEq, Repr

/-- `ArgParserOptionsEntry`. -/
structure OptionsEntry where
  optKey : Nat
  optName : Text
  flags : Flags
deriving DecidableEq, Repr

/-- `ArgParser`; `ffmpegOptions` is there in the parsers of the FFmpeg programs. -/
structure ArgParser where
  /-- By their keys. -/
  optionRegMap : List OptionsEntry := []
  /-- The latest first. -/
  options : List (Text × Text) := []
  nonOptions : List Text := []
  nextOptionKey : Nat := 1024
  ffmpegOptions : Option Text := none
deriving DecidableEq, Repr

def insertEntry (entry : OptionsEntry) : List OptionsEntry → List OptionsEntry
  | [] => [entry]
  | e :: rest =>
    if entry.optKey < e.optKey then entry :: e :: rest
    else if entry.optKey = e.optKey then entry :: rest
    else e :: insertEntry entry rest

def OptionsEntry.hasArg (e : OptionsEntry) : HasArg :=
  if e.flags.optionalArg then .optional else if e.flags.withArg then .required else .no

namespace ArgParser

/-- `RegisterOption`: an option without a letter gets the next key. -/
def registerOption (p : ArgParser) (optName : String) (optShort : Option Char) (flags : Flags) :
    ArgParser :=
  match optShort with
  | some c =>
    if c.toNat > 127 ∨ c = '?' then p
    else { p with optionRegMap := insertEntry ⟨c.toNat, optName.toList, flags⟩ p.optionRegMap }
  | none => { p with
      optionRegMap := insertEntry ⟨p.nextOptionKey, optName.toList, flags⟩ p.optionRegMap
      nextOptionKey := p.nextOptionKey + 1 }

def registerBasicOptions (p : ArgParser) : ArgParser :=
  (p.registerOption "help" 'h' { prefer := true }).registerOption "version" 'v' { prefer := true }

def registerSourceOptions (p : ArgParser) : ArgParser :=
  p.registerOption "stream-name" 's' { required := true, withArg := true }
    |>.registerOption "port" 'p' { withArg := true, long := true }
    |>.registerOption "log-file" 'l' { withArg := true }
    |>.registerOption "log-size" 'L' { withArg := true, long := true }
    |>.registerOption "log-rotate" 'r' { withArg := true, long := true }
    |>.registerOption "log-level" none { withArg := true, long := true }
    |>.registerOption "queue-size" 'q' { withArg := true, long := true }
    |>.registerOption "url" 'u' { required := true, withArg := true }

def registerSenderOptions (p : ArgParser) : ArgParser :=
  p.registerOption "stream-name" 's' { withArg := true }
    |>.registerOption "host" 'H' { withArg := true }
    |>.registerOption "port" 'p' { withArg := true, long := true }
    |>.registerOption "log-file" 'l' { withArg := true }
    |>.registerOption "log-size" 'L' { withArg := true, long := true }
    |>.registerOption "log-rotate" 'r' { withArg := true, long := true }
    |>.registerOption "log-level" none { withArg := true, long := true }
    |>.registerOption "queue-size" 'q' { withArg := true, long := true }
    |>.registerOption "url" 'u' { required := true, withArg := true }
    |>.registerOption "format" 'f' { withArg := true }

/-- The entry of a key. -/
def entryOf (p : ArgParser) (key : Nat) : Option OptionsEntry :=
  p.optionRegMap.find? fun e => e.optKey = key

/-- `optstring` and `longopts` of `Parse`. -/
def table (p : ArgParser) : Getopt.Table where
  short c := (p.optionRegMap.find? fun e => e.optKey = c.toNat ∧ 0 < e.optKey ∧ e.optKey < 128).map
    OptionsEntry.hasArg
  long := p.optionRegMap.map fun e => ⟨e.optName, e.hasArg, e.optKey⟩

def checkOption (p : ArgParser) (optName : String) : Bool := (p.options.lookup optName.toList).isSome

def optionValue (p : ArgParser) (optName defaultValue : String) : Text :=
  (p.options.lookup optName.toList).getD defaultValue.toList

/-- `ParseOption`. -/
def parseOption (p : ArgParser) (optName : Text) (optValue : Option Text) : ArgParser :=
  { p with options := (optName, optValue.getD []) :: p.options }

/-- `ParseUnknown`: the parsers of the FFmpeg programs keep the options for the library. -/
def parseUnknown (p : ArgParser) (unknownArg : Text) : ArgParser :=
  match p.ffmpegOptions with
  | none => p
  | some kept =>
    if "--ffmpeg-".toList.isPrefixOf unknownArg then
      let text := unknownArg.drop "--ffmpeg-".length
      let text := if '=' ∈ text then text else text ++ ['=', '1']
      { p with ffmpegOptions := some ((if kept = [] then [] else kept ++ [',']) ++ text) }
    else p

/-- The loop of `Parse`, and whether it looks for the required options. -/
def parseEvents (p : ArgParser) (needCheckRequired : Bool) :
    List Event → Except Text (ArgParser × Bool)
  | [] => .ok (p, needCheckRequired)
  | .unknown arg :: events => parseEvents (p.parseUnknown arg) needCheckRequired events
  | .option val optarg :: events =>
    match p.entryOf val with
    | none => parseEvents p needCheckRequired events
    | some e =>
      let optValue := if e.flags.optionalArg || e.flags.withArg then optarg else none
      if e.flags.long && optValue.any fun v => !isLong v then
        .error ("Option ".toList ++ e.optName ++ " Value must be a Long Number".toList)
      else parseEvents (p.parseOption e.optName optValue) (needCheckRequired && !e.flags.prefer) events

/-- The first option that is required and not there. -/
def missing (p : ArgParser) : Option OptionsEntry :=
  p.optionRegMap.find? fun e => e.flags.required && (p.options.lookup e.optName).isNone

/-- `Parse`: the parser then, or what `err_info` says. -/
def parse (p : ArgParser) (argv : List Text) : Except Text ArgParser :=
  let r := Getopt.getoptLong p.table (argv.headD []) [] argv.tail
  (p.parseEvents true r.1).bind fun parsed =>
    let p := { parsed.1 with nonOptions := parsed.1.nonOptions ++ r.2 }
    match if parsed.2 then p.missing else none with
    | some e => .error ("Option ".toList ++ e.optName ++ " must be specified".toList)
    | none => .ok p

end ArgParser

/-! ## Options as they are meant -/

/-- What an option gives: the value of an option, or one for the FFmpeg library. -/
inductive Meaning
  | set (optName value : Text)
  | ffmpeg (text : Text)
deriving DecidableEq, Repr

/-- An option for the library. -/
def Meaning.ffmpeg? : Meaning → Option Text
  | .ffmpeg text => some text
  | .set _ _ => none

def commaSeparated : List Text → Text
  | [] => []
  | text :: texts => text ++ texts.flatMap (',' :: ·)

/-- The entry takes the value. -/
def OptionsEntry.takes (e : OptionsEntry) (value : Text) : Bool :=
  e.flags.withArg && !e.flags.optionalArg && !e.flags.prefer && (!e.flags.long || isLong value)

/-- The entry takes no value. -/
def OptionsEntry.bare (e : OptionsEntry) : Bool :=
  !e.flags.withArg && !e.flags.optionalArg && !e.flags.prefer

namespace ArgParser

variable {p : ArgParser}

def named (p : ArgParser) (name : Text) : Option OptionsEntry :=
  p.optionRegMap.find? fun e => e.optName = name

/-- No option begins so. -/
def abbreviates (p : ArgParser) (name : Text) : Bool :=
  p.optionRegMap.any fun e => name.isPrefixOf e.optName

/-- An option with its whole name, or one for the library; nothing else is meant. -/
def meaning (p : ArgParser) : Item → Option Meaning
  | .short c value =>
    if c.isAlpha then (p.entryOf c.toNat).bind fun e =>
      if e.takes value then some (.set e.optName value) else none
    else none
  | .apart name value =>
    if '=' ∉ name ∧ name ≠ [] then (p.named name).bind fun e =>
      if e.takes value then some (.set e.optName value) else none
    else none
  | .long name arg =>
    if '=' ∉ name ∧ name ≠ [] then
      match p.named name with
      | some e =>
        if arg.elim e.bare e.takes then some (.set e.optName (arg.getD [])) else none
      | none =>
        if p.ffmpegOptions.isSome && "ffmpeg-".toList.isPrefixOf name && !p.abbreviates name then
          some (.ffmpeg (name.drop "ffmpeg-".length ++ '=' :: arg.getD ['1']))
        else none
    else none
  | .operand _ => none

/-- The parser, given what is meant. -/
def give (p : ArgParser) : Meaning → ArgParser
  | .set optName value => p.parseOption optName (some value)
  | .ffmpeg text => { p with
      ffmpegOptions := p.ffmpegOptions.map fun kept =>
        (if kept = [] then [] else kept ++ [',']) ++ text }

theorem table_give (p : ArgParser) (m : Meaning) : (p.give m).table = p.table := by
  cases m <;> rfl

theorem entryOf_give (p : ArgParser) (m : Meaning) : (p.give m).entryOf = p.entryOf := by
  cases m <;> rfl

theorem meaning_give (p : ArgParser) (m : Meaning) : (p.give m).meaning = p.meaning := by
  funext i
  cases m with
  | set optName value => cases i <;> rfl
  | ffmpeg text =>
    cases i with
    | long name arg => simp [meaning, give, named, abbreviates]
    | short c value => rfl
    | apart name value => rfl
    | operand text => rfl

theorem findLong_named {name : Text} {e : OptionsEntry} (h : p.named name = some e) :
    p.table.findLong name = some ⟨e.optName, e.hasArg, e.optKey⟩ := by
  have hfind : p.table.long.find? (fun o => o.name = name) =
      some ⟨e.optName, e.hasArg, e.optKey⟩ := by
    rw [table, List.find?_map]
    exact Option.map_eq_some_iff.2 ⟨e, h, rfl⟩
  unfold Getopt.Table.findLong
  rw [hfind]

theorem findLong_none {name : Text} (h : p.named name = none) (hnone : p.abbreviates name = false) :
    p.table.findLong name = none := by
  have hfind : p.table.long.find? (fun o => o.name = name) = none := by
    rw [table, List.find?_map]
    exact Option.map_eq_none_iff.2 h
  have hfilter : (p.table.long.filter fun o => name.isPrefixOf o.name) = [] := by
    rw [List.filter_eq_nil_iff]
    intro o ho
    obtain ⟨e, he, rfl⟩ := List.mem_map.1 ho
    exact fun hbegins => Bool.false_ne_true (hnone.symm.trans (List.any_eq_true.2 ⟨e, he, hbegins⟩))
  unfold Getopt.Table.findLong
  rw [hfind, hfilter]

/-- The entries are found by their keys. -/
def Keyed (p : ArgParser) : Prop := ∀ e ∈ p.optionRegMap, p.entryOf e.optKey = some e

instance (p : ArgParser) : Decidable p.Keyed :=
  inferInstanceAs (Decidable (∀ e ∈ p.optionRegMap, p.entryOf e.optKey = some e))

theorem entryOf_named {name : Text} {e : OptionsEntry} (hkeyed : p.Keyed)
    (h : p.named name = some e) : p.entryOf e.optKey = some e :=
  hkeyed e (List.mem_of_find?_eq_some h)

theorem hasArg_of_takes {e : OptionsEntry} {value : Text} (h : e.takes value = true) :
    e.hasArg = .required := by
  simp only [OptionsEntry.takes, Bool.and_eq_true, Bool.not_eq_true'] at h
  obtain ⟨⟨⟨hwith, hoptional⟩, -⟩, -⟩ := h
  rw [OptionsEntry.hasArg, hoptional, hwith]
  rfl

theorem hasArg_of_bare {e : OptionsEntry} (h : e.bare = true) : e.hasArg = .no := by
  simp only [OptionsEntry.bare, Bool.and_eq_true, Bool.not_eq_true'] at h
  obtain ⟨⟨hwith, hoptional⟩, -⟩ := h
  rw [OptionsEntry.hasArg, hoptional, hwith]
  rfl

theorem toNat_letter {c : Char} (h : c.isAlpha = true) : 0 < c.toNat ∧ c.toNat < 128 := by
  have hletter : (c.isUpper || c.isLower) = true := h
  have hzZ : ('Z' : Char).val.toNat < 128 ∧ ('z' : Char).val.toNat < 128 := by decide
  have haA : 0 < ('A' : Char).val.toNat ∧ 0 < ('a' : Char).val.toNat := by decide
  rcases Bool.or_eq_true_iff.1 hletter with hupper | hlower
  · have hrange : ('A' : Char).val ≤ c.val ∧ c.val ≤ ('Z' : Char).val := of_decide_eq_true hupper
    exact ⟨Nat.lt_of_lt_of_le haA.1 (UInt32.le_iff_toNat_le.1 hrange.1),
      Nat.lt_of_le_of_lt (UInt32.le_iff_toNat_le.1 hrange.2) hzZ.1⟩
  · obtain ⟨hlo, hhi⟩ := Bool.and_eq_true_iff.1 hlower
    exact ⟨Nat.lt_of_lt_of_le haA.2 (UInt32.le_iff_toNat_le.1 (of_decide_eq_true hlo)),
      Nat.lt_of_le_of_lt (UInt32.le_iff_toNat_le.1 (of_decide_eq_true hhi)) hzZ.2⟩

theorem short_of_entryOf {c : Char} {e : OptionsEntry} (hc : c.isAlpha = true)
    (h : p.entryOf c.toNat = some e) : p.table.short c = some e.hasArg := by
  have hrange := toNat_letter hc
  have hsame : (fun e : OptionsEntry =>
      decide (e.optKey = c.toNat ∧ 0 < e.optKey ∧ e.optKey < 128)) =
        fun e => decide (e.optKey = c.toNat) := by
    funext e
    refine decide_eq_decide.2 ⟨And.left, fun heq => ⟨heq, ?_⟩⟩
    omega
  unfold table
  dsimp only
  rw [hsame]
  exact Option.map_eq_some_iff.2 ⟨e, h, rfl⟩

/-! ### What is meant by an option -/

theorem meaning_short {c : Char} {value : Text} {m : Meaning}
    (h : p.meaning (.short c value) = some m) :
    c.isAlpha = true ∧ ∃ e, p.entryOf c.toNat = some e ∧ e.takes value = true ∧
      m = .set e.optName value := by
  rw [meaning] at h
  split_ifs at h with hc
  obtain ⟨e, hentry, hset⟩ := Option.bind_eq_some_iff.1 h
  split_ifs at hset with htakes
  cases hset
  exact ⟨hc, e, hentry, htakes, rfl⟩

theorem meaning_apart {name value : Text} {m : Meaning}
    (h : p.meaning (.apart name value) = some m) :
    ('=' ∉ name ∧ name ≠ []) ∧ ∃ e, p.named name = some e ∧ e.takes value = true ∧
      m = .set e.optName value := by
  rw [meaning] at h
  split_ifs at h with hname
  obtain ⟨e, hnamed, hset⟩ := Option.bind_eq_some_iff.1 h
  split_ifs at hset with htakes
  cases hset
  exact ⟨hname, e, hnamed, htakes, rfl⟩

theorem meaning_long {name : Text} {arg : Option Text} {m : Meaning}
    (h : p.meaning (.long name arg) = some m) :
    ('=' ∉ name ∧ name ≠ []) ∧
      ((∃ e, p.named name = some e ∧ arg.elim e.bare e.takes = true ∧
          m = .set e.optName (arg.getD [])) ∨
        (p.named name = none ∧ p.ffmpegOptions.isSome = true ∧
          "ffmpeg-".toList.isPrefixOf name = true ∧ p.abbreviates name = false ∧
          m = .ffmpeg (name.drop "ffmpeg-".length ++ '=' :: arg.getD ['1']))) := by
  rw [meaning] at h
  split at h
  · next hname =>
    refine ⟨hname, ?_⟩
    split at h
    · next e hnamed =>
      split_ifs at h with harg
      cases h
      exact .inl ⟨e, hnamed, harg, rfl⟩
    · next hnamed =>
      split_ifs at h with hffmpeg
      cases h
      simp only [Bool.and_eq_true, Bool.not_eq_true'] at hffmpeg
      exact .inr ⟨hnamed, hffmpeg.1.1, hffmpeg.1.2, hffmpeg.2, rfl⟩
  · cases h

/-- What is meant can be told apart. -/
theorem ok_of_meaning {i : Item} {m : Meaning} (h : p.meaning i = some m) : i.Ok p.table := by
  cases i with
  | short c value =>
    obtain ⟨hc, e, hentry, htakes, -⟩ := meaning_short h
    refine ⟨?_, ?_, ?_, by rw [short_of_entryOf hc hentry, hasArg_of_takes htakes]⟩
    all_goals
      rintro rfl
      cases hc
  | apart name value =>
    obtain ⟨hname, e, hnamed, htakes, -⟩ := meaning_apart h
    exact ⟨hname.1, hname.2, _, findLong_named hnamed, hasArg_of_takes htakes⟩
  | long name arg =>
    obtain ⟨hname, ⟨e, hnamed, harg, -⟩ | ⟨hnamed, -, -, hnone, -⟩⟩ := meaning_long h
    · refine ⟨hname.1, fun _ => hname.2, fun o ho => ?_⟩
      cases (findLong_named hnamed).symm.trans ho
      cases arg with
      | none =>
        show e.hasArg ≠ .required
        exact fun heq => by cases (hasArg_of_bare harg).symm.trans heq
      | some value =>
        show e.hasArg ≠ .no
        exact fun heq => by cases (hasArg_of_takes harg).symm.trans heq
    · refine ⟨hname.1, fun _ => hname.2, fun o ho => ?_⟩
      cases (findLong_none hnamed hnone).symm.trans ho
  | operand text => cases h

/-- An option that takes its value. -/
theorem parseEvents_takes {e : OptionsEntry} {value : Text} (hentry : p.entryOf e.optKey = some e)
    (htakes : e.takes value = true) (need : Bool) (events : List Event) :
    p.parseEvents need (.option e.optKey (some value) :: events) =
      (p.parseOption e.optName (some value)).parseEvents need events := by
  simp only [OptionsEntry.takes, Bool.and_eq_true, Bool.not_eq_true', Bool.or_eq_true] at htakes
  obtain ⟨⟨⟨hwith, -⟩, hprefer⟩, hlong⟩ := htakes
  have hnumber : (e.flags.long && !isLong value) = false := by
    rcases hlong with hlong | hlong
    · rw [hlong]
      rfl
    · rw [hlong, Bool.not_true, Bool.and_false]
  rw [parseEvents, hentry]
  dsimp only
  rw [hwith, Bool.or_true, if_pos rfl, Option.any_some, hnumber, if_neg Bool.false_ne_true, hprefer,
    Bool.not_false, Bool.and_true]

theorem parseEvents_bare {e : OptionsEntry} (hentry : p.entryOf e.optKey = some e)
    (hbare : e.bare = true) (need : Bool) (events : List Event) :
    p.parseEvents need (.option e.optKey none :: events) =
      (p.parseOption e.optName none).parseEvents need events := by
  simp only [OptionsEntry.bare, Bool.and_eq_true, Bool.not_eq_true'] at hbare
  obtain ⟨⟨hwith, hoptional⟩, hprefer⟩ := hbare
  rw [parseEvents, hentry]
  dsimp only
  rw [hwith, hoptional, hprefer, Bool.or_self, if_neg Bool.false_ne_true, Option.any_none,
    Bool.and_false, if_neg Bool.false_ne_true, Bool.not_false, Bool.and_true]

/-- An option for the library. -/
theorem parseUnknown_element {name : Text} {arg : Option Text} (hname : '=' ∉ name)
    (hffmpeg : p.ffmpegOptions.isSome = true) (hbegins : "ffmpeg-".toList.isPrefixOf name = true) :
    p.parseUnknown (Item.element name arg) =
      p.give (.ffmpeg (name.drop "ffmpeg-".length ++ '=' :: arg.getD ['1'])) := by
  obtain ⟨kept, hkept⟩ := Option.isSome_iff_exists.1 hffmpeg
  obtain ⟨rest, rfl⟩ := List.isPrefixOf_iff_prefix.1 hbegins
  have hrest : '=' ∉ rest := fun hmem => hname (List.mem_append_right _ hmem)
  have hdrop : ("ffmpeg-".toList ++ rest).drop "ffmpeg-".length = rest := List.drop_left
  have helement : Item.element ("ffmpeg-".toList ++ rest) arg =
      "--ffmpeg-".toList ++ (rest ++ arg.elim [] ('=' :: ·)) := by
    rw [Item.element, List.append_assoc]
    rfl
  have hpre : "--ffmpeg-".toList.isPrefixOf
      ("--ffmpeg-".toList ++ (rest ++ arg.elim [] ('=' :: ·))) = true :=
    List.isPrefixOf_iff_prefix.2 (List.prefix_append ..)
  have htext : ("--ffmpeg-".toList ++ (rest ++ arg.elim [] ('=' :: ·))).drop "--ffmpeg-".length =
      rest ++ arg.elim [] ('=' :: ·) := List.drop_left
  unfold parseUnknown
  rw [hdrop, helement, hkept]
  dsimp only
  rw [if_pos hpre, htext]
  cases arg with
  | none =>
    rw [Option.elim_none, List.append_nil, if_neg hrest]
    simp [give, hkept]
  | some value =>
    have hmem : '=' ∈ rest ++ '=' :: value := List.mem_append_right _ List.mem_cons_self
    rw [Option.elim_some, if_pos hmem]
    simp [give, hkept]

/-- What is read of an option is what is meant by it. -/
theorem parseEvents_item {i : Item} {m : Meaning} (hkeyed : p.Keyed) (h : p.meaning i = some m)
    (need : Bool) (events : List Event) :
    p.parseEvents need (i.events p.table ++ events) = (p.give m).parseEvents need events := by
  cases i with
  | short c value =>
    obtain ⟨-, e, hentry, htakes, rfl⟩ := meaning_short h
    have hkey : e.optKey = c.toNat := by simpa using List.find?_some hentry
    rw [← hkey] at hentry
    show p.parseEvents need (.option c.toNat (some value) :: events) = _
    rw [← hkey]
    exact parseEvents_takes hentry htakes need events
  | apart name value =>
    obtain ⟨-, e, hnamed, htakes, rfl⟩ := meaning_apart h
    have hevents : (Item.apart name value).events p.table = [.option e.optKey (some value)] := by
      rw [Item.events, findLong_named hnamed]
      rfl
    rw [hevents]
    exact parseEvents_takes (entryOf_named hkeyed hnamed) htakes need events
  | long name arg =>
    obtain ⟨hname, ⟨e, hnamed, harg, rfl⟩ | ⟨hnamed, hsome, hbegins, hnone, rfl⟩⟩ := meaning_long h
    · have hevents : (Item.long name arg).events p.table = [.option e.optKey arg] := by
        rw [Item.events, findLong_named hnamed]
        rfl
      have hentry := entryOf_named hkeyed hnamed
      rw [hevents]
      cases arg with
      | none => exact parseEvents_bare hentry harg need events
      | some value => exact parseEvents_takes hentry harg need events
    · have hevents : (Item.long name arg).events p.table = [.unknown (Item.element name arg)] := by
        rw [Item.events, findLong_none hnamed hnone]
        rfl
      rw [hevents, ← parseUnknown_element hname.1 hsome hbegins]
      rfl
  | operand text => cases h

/-- The parser after what is meant. -/
def given (p : ArgParser) (ms : List Meaning) : ArgParser := ms.foldl give p

theorem parseEvents_items {items : List Item} {ms : List Meaning} (hkeyed : p.Keyed)
    (h : items.map p.meaning = ms.map some) (need : Bool) :
    p.parseEvents need (items.flatMap (Item.events p.table)) = .ok (p.given ms, need) := by
  induction items generalizing p ms with
  | nil =>
    cases ms with
    | nil => rfl
    | cons m ms => cases h
  | cons i items ih =>
    cases ms with
    | nil => cases h
    | cons m ms =>
      obtain ⟨hi, hitems⟩ := List.cons.inj h
      have hkeyed' : (p.give m).Keyed := fun e he => by
        rw [entryOf_give]
        exact hkeyed e (by cases m <;> exact he)
      have hrest := ih hkeyed' (by rw [meaning_give]; exact hitems)
      rw [table_give] at hrest
      rw [List.flatMap_cons, parseEvents_item hkeyed hi, hrest]
      rfl

theorem given_optionRegMap (p : ArgParser) (ms : List Meaning) :
    (p.given ms).optionRegMap = p.optionRegMap := by
  induction ms generalizing p with
  | nil => rfl
  | cons m ms ih => exact (ih (p.give m)).trans (by cases m <;> rfl)

/-- **Options are what they are meant to be**. -/
theorem parse_items {items : List Item} {ms : List Meaning} (hkeyed : p.Keyed)
    (h : items.map p.meaning = ms.map some) (program : Text) :
    p.parse (program :: items.flatMap Item.args) =
      (p.given ms).missing.elim (.ok (p.given ms))
        fun e => .error ("Option ".toList ++ e.optName ++ " must be specified".toList) := by
  have hmeant : ∀ i ∈ items, ∃ m, p.meaning i = some m := fun i hi => by
    have hmem : p.meaning i ∈ ms.map some := h ▸ List.mem_map_of_mem hi
    obtain ⟨m, -, hm⟩ := List.mem_map.1 hmem
    exact ⟨m, hm.symm⟩
  have hoperands : items.flatMap Item.operands = [] := by
    rw [List.flatMap_eq_nil_iff]
    intro i hi
    obtain ⟨m, hm⟩ := hmeant i hi
    cases i with
    | operand text => cases hm
    | short c value => rfl
    | apart name value => rfl
    | long name arg => rfl
  have hread : Getopt.getoptLong p.table program [] (items.flatMap Item.args) = _ :=
    Getopt.getoptLong_items (fun i hi => (hmeant i hi).elim fun m hm => ok_of_meaning hm) program []
  rw [hoperands] at hread
  have hevents := parseEvents_items hkeyed h true
  unfold parse
  dsimp only [List.headD_cons, List.tail_cons]
  rw [hread]
  dsimp only
  rw [hevents, Except.bind]
  dsimp only
  rw [if_pos rfl, List.nil_append, List.append_nil]
  cases (p.given ms).missing with
  | none => rfl
  | some e => rfl

/-! ## The options then -/

/-- The value that an option was given last. -/
def lastSet (name : Text) : List Meaning → Option Text
  | [] => none
  | .set optName value :: ms => (lastSet name ms).or (if optName = name then some value else none)
  | .ffmpeg _ :: ms => lastSet name ms

theorem lastSet_append (name : Text) (ms ms' : List Meaning) :
    lastSet name (ms ++ ms') = (lastSet name ms').or (lastSet name ms) := by
  induction ms with
  | nil => exact (Option.or_none).symm
  | cons m ms ih =>
    cases m with
    | set optName value =>
      show (lastSet name (ms ++ ms')).or _ = _
      rw [ih, Option.or_assoc]
      rfl
    | ffmpeg text => exact ih

theorem lastSet_none {name : Text} {ms : List Meaning} (h : ∀ m ∈ ms, ∀ value, m ≠ .set name value) :
    lastSet name ms = none := by
  induction ms with
  | nil => rfl
  | cons m ms ih =>
    obtain ⟨hm, hms⟩ := List.forall_mem_cons.1 h
    cases m with
    | set optName value =>
      rw [lastSet, ih hms, if_neg fun hname : optName = name => hm value (hname ▸ rfl)]
      rfl
    | ffmpeg text => exact ih hms

theorem lookup_given (name : Text) (ms : List Meaning) :
    (p.given ms).options.lookup name = (lastSet name ms).or (p.options.lookup name) := by
  induction ms generalizing p with
  | nil => rfl
  | cons m ms ih =>
    refine (ih (p := p.give m)).trans ?_
    cases m with
    | set optName value =>
      have hlookup : (p.give (.set optName value)).options.lookup name =
          (if optName = name then some value else none).or (p.options.lookup name) := by
        show List.lookup name ((optName, value) :: p.options) = _
        rw [List.lookup_cons]
        by_cases hname : optName = name
        · rw [if_pos hname, hname, beq_self_eq_true]
          rfl
        · rw [if_neg hname, beq_eq_false_iff_ne.2 fun heq => hname heq.symm]
          rfl
      rw [hlookup, ← Option.or_assoc]
      rfl
    | ffmpeg text => rfl

theorem ffmpegOptions_none (hnone : p.ffmpegOptions = none) (ms : List Meaning) :
    (p.given ms).ffmpegOptions = none := by
  induction ms generalizing p with
  | nil => exact hnone
  | cons m ms ih =>
    cases m with
    | set optName value => exact ih (p := p.give (.set optName value)) hnone
    | ffmpeg text =>
      have hgive : (p.give (.ffmpeg text)).ffmpegOptions = none := by
        simp [give, hnone]
      exact ih hgive

theorem ffmpegOptions_behind {kept : Text} (hkept : p.ffmpegOptions = some kept) (hne : kept ≠ [])
    (ms : List Meaning) : (p.given ms).ffmpegOptions =
      some (kept ++ (ms.filterMap Meaning.ffmpeg?).flatMap (',' :: ·)) := by
  induction ms generalizing p kept with
  | nil => exact hkept.trans (congrArg some (List.append_nil kept).symm)
  | cons m ms ih =>
    cases m with
    | set optName value => exact ih (p := p.give (.set optName value)) hkept hne
    | ffmpeg text =>
      have hgive : (p.give (.ffmpeg text)).ffmpegOptions = some (kept ++ [','] ++ text) := by
        simp [give, hkept, hne]
      refine (ih hgive (by simp)).trans ?_
      simp [Meaning.ffmpeg?]

/-- They are kept with commas between them. -/
theorem ffmpegOptions_given (hkept : p.ffmpegOptions = some []) {ms : List Meaning}
    (hne : ∀ text ∈ ms.filterMap Meaning.ffmpeg?, text ≠ []) :
    (p.given ms).ffmpegOptions = some (commaSeparated (ms.filterMap Meaning.ffmpeg?)) := by
  induction ms generalizing p with
  | nil => exact hkept
  | cons m ms ih =>
    cases m with
    | set optName value => exact ih (p := p.give (.set optName value)) hkept hne
    | ffmpeg text =>
      have hgive : (p.give (.ffmpeg text)).ffmpegOptions = some text := by
        simp [give, hkept]
      exact ffmpegOptions_behind hgive (hne text List.mem_cons_self) ms

end ArgParser

end Cmd

end StreamSwitch
