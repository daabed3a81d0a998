import Mathlib.Data.List.TakeWhile

/-!
# Options of a command line

`getopt_long` of the C library, called until it has no more options, for a table of short and long
options. Operands may stand between options. `getoptLong_items` says that what is written as options and
operands is read as that.
-/

namespace Getopt

abbrev Text := List Char

inductive HasArg | no | required | optional
deriving DecidableEq, Repr

structure LongOption where
  name : Text
  hasArg : HasArg
  val : Nat
deriving DecidableEq, Repr

/-- What `optstring` and `longopts` say. -/
structure Table where
  short : Char → Option HasArg
  long : List LongOption

/-- What a call returns. -/
inductive Event
  | option (val : Nat) (optarg : Option Text)
  /-- `?`, with the element before `optind`. -/
  | unknown (element : Text)
deriving DecidableEq, Repr

/-- What is read of an element: the element before `optind` then, and the elements from there. -/
structure Step where
  events : List Event
  last : Text
  rest : List Text
deriving DecidableEq, Repr

/-- The option that has the name, or else the only one whose name begins so. -/
def Table.findLong (t : Table) (name : Text) : Option LongOption :=
  match t.long.find? (·.name = name) with
  | some o => some o
  | none =>
    match t.long.filter fun o => name.isPrefixOf o.name with
    | [] => none
    | o :: others => if others.all fun p => p.hasArg = o.hasArg ∧ p.val = o.val then some o else none

def longOption (t : Table) (element : Text) (rest : List Text) : Step :=
  let text := element.drop 2
  match t.findLong (text.takeWhile (· ≠ '=')) with
  | none => ⟨[.unknown element], element, rest⟩
  | some o =>
    match text.dropWhile (· ≠ '=') with
    | _ :: arg =>
      if o.hasArg = .no then ⟨[.unknown element], element, rest⟩
      else ⟨[.option o.val (some arg)], element, rest⟩
    | [] =>
      if o.hasArg = .required then
        match rest with
        | arg :: rest => ⟨[.option o.val (some arg)], arg, rest⟩
        | [] => ⟨[.unknown element], element, []⟩
      else ⟨[.option o.val none], element, rest⟩

/-- The letters of an element. `optind` is that of the element until its last letter is read. -/
def shortOptions (t : Table) (element before : Text) (rest : List Text) : Text → Step
  | [] => ⟨[], element, rest⟩
  | c :: cs =>
    match if c = ':' ∨ c = ';' then none else t.short c with
    | none =>
      let s := shortOptions t element before rest cs
      { s with events := .unknown (if cs = [] then element else before) :: s.events }
    | some .no =>
      let s := shortOptions t element before rest cs
      { s with events := .option c.toNat none :: s.events }
    | some .optional => ⟨[.option c.toNat (if cs = [] then none else some cs)], element, rest⟩
    | some .required =>
      if cs ≠ [] then ⟨[.option c.toNat (some cs)], element, rest⟩
      else
        match rest with
        | arg :: rest => ⟨[.option c.toNat (some arg)], arg, rest⟩
        | [] => ⟨[.unknown element], element, []⟩

def isOperand : Text → Bool
  | '-' :: _ :: _ => false
  | _ => true

/-- An element that is no operand; the operands passed over stand before `optind`. -/
def step (t : Table) (last : Text) (operands : List Text) (element : Text) (rest : List Text) : Step :=
  match element with
  | '-' :: '-' :: _ => longOption t element rest
  | _ => shortOptions t element (operands.getLast?.getD last) rest (element.drop 1)

theorem length_longOption (t : Table) (element : Text) (rest : List Text) :
    (longOption t element rest).rest.length ≤ rest.length := by
  unfold longOption
  dsimp only
  split
  · exact Nat.le_refl _
  · split
    · split
      · exact Nat.le_refl _
      · exact Nat.le_refl _
    · split
      · split
        · exact Nat.le_succ _
        · exact Nat.le_refl _
      · exact Nat.le_refl _

theorem length_shortOptions (t : Table) (element before : Text) (rest : List Text) (cs : Text) :
    (shortOptions t element before rest cs).rest.length ≤ rest.length := by
  induction cs with
  | nil => exact Nat.le_refl _
  | cons c cs ih =>
    unfold shortOptions
    split
    · exact ih
    · exact ih
    · exact Nat.le_refl _
    · split
      · exact Nat.le_refl _
      · split
        · exact Nat.le_succ _
        · exact Nat.le_refl _

theorem length_step (t : Table) (last : Text) (operands : List Text) (element : Text)
    (rest : List Text) : (step t last operands element rest).rest.length ≤ rest.length := by
  unfold step
  split
  · exact length_longOption ..
  · exact length_shortOptions ..

/-- The calls until one returns -1, and the operands behind the options then. -/
def getoptLong (t : Table) (last : Text) (operands : List Text) : List Text → List Event × List Text
  | [] => ([], operands)
  | element :: rest =>
    if element = ['-', '-'] then ([], operands ++ rest)
    else if isOperand element then getoptLong t last (operands ++ [element]) rest
    else
      let s := step t last operands element rest
      let r := getoptLong t s.last operands s.rest
      (s.events ++ r.1, r.2)
termination_by args => args.length
decreasing_by
  · exact Nat.lt_succ_self _
  · exact Nat.lt_succ_of_le (length_step ..)

/-! ## What is written -/

/-- An option or an operand, as it is meant to be read. -/
inductive Item
  | short (c : Char) (arg : Text)
  | long (name : Text) (arg : Option Text)
  /-- The argument is the next element. -/
  | apart (name arg : Text)
  | operand (text : Text)
deriving DecidableEq, Repr

namespace Item

def element (name : Text) (arg : Option Text) : Text :=
  '-' :: '-' :: (name ++ arg.elim [] ('=' :: ·))

def args : Item → List Text
  | short c arg => [['-', c], arg]
  | long name arg => [element name arg]
  | apart name arg => [element name none, arg]
  | operand text => [text]

/-- What it is read as: a long option that there is none of is unknown. -/
def events (t : Table) : Item → List Event
  | short c arg => [.option c.toNat (some arg)]
  | long name arg => [(t.findLong name).elim (.unknown (element name arg)) (.option ·.val arg)]
  | apart name arg => (t.findLong name).toList.map (.option ·.val (some arg))
  | operand _ => []

def operands : Item → List Text
  | operand text => [text]
  | _ => []

/-- It can be told from the others, and has an argument where there has to be one. -/
def Ok (t : Table) : Item → Prop
  | short c _ => c ≠ '-' ∧ c ≠ ':' ∧ c ≠ ';' ∧ t.short c = some .required
  | long name arg => '=' ∉ name ∧ (arg = none → name ≠ []) ∧
      ∀ o, t.findLong name = some o → if arg.isSome then o.hasArg ≠ .no else o.hasArg ≠ .required
  | apart name _ => '=' ∉ name ∧ name ≠ [] ∧ ∃ o, t.findLong name = some o ∧ o.hasArg = .required
  | operand text => isOperand text = true

end Item

theorem takeWhile_name {name : Text} (h : '=' ∉ name) (rest : Text) :
    (name ++ '=' :: rest).takeWhile (· ≠ '=') = name ∧
      (name ++ '=' :: rest).dropWhile (· ≠ '=') = '=' :: rest := by
  have hname : ∀ c ∈ name, decide (c ≠ '=') = true := fun c hc =>
    decide_eq_true fun heq => h (heq ▸ hc)
  rw [List.takeWhile_append_of_pos hname, List.dropWhile_append_of_pos hname]
  exact ⟨by simp, by simp⟩

theorem takeWhile_bare {name : Text} (h : '=' ∉ name) :
    name.takeWhile (· ≠ '=') = name ∧ name.dropWhile (· ≠ '=') = [] := by
  have hname : ∀ c ∈ name, decide (c ≠ '=') = true := fun c hc =>
    decide_eq_true fun heq => h (heq ▸ hc)
  exact ⟨List.takeWhile_eq_self_iff.2 hname, List.dropWhile_eq_nil_iff.2 hname⟩

theorem longOption_element {t : Table} {name : Text} {arg : Option Text} (hname : '=' ∉ name)
    (hfound : ∀ o, t.findLong name = some o →
      if arg.isSome then o.hasArg ≠ .no else o.hasArg ≠ .required) (rest : List Text) :
    longOption t (Item.element name arg) rest =
      ⟨(Item.long name arg).events t, Item.element name arg, rest⟩ := by
  cases arg with
  | none =>
    obtain ⟨htake, hdrop⟩ := takeWhile_bare hname
    have htext : (Item.element name none).drop 2 = name := List.append_nil name
    unfold longOption
    dsimp only
    rw [htext, htake, hdrop]
    cases hfind : t.findLong name with
    | none => simp only [Item.events, hfind, Option.elim_none]
    | some o =>
      have harg := hfound o hfind
      simp only [Item.events, hfind, Option.elim_some]
      exact if_neg harg
  | some text =>
    obtain ⟨htake, hdrop⟩ := takeWhile_name hname text
    have htext : (Item.element name (some text)).drop 2 = name ++ '=' :: text := rfl
    unfold longOption
    dsimp only
    rw [htext, htake, hdrop]
    cases hfind : t.findLong name with
    | none => simp only [Item.events, hfind, Option.elim_none]
    | some o =>
      have harg := hfound o hfind
      simp only [Item.events, hfind, Option.elim_some]
      exact if_neg harg

theorem longOption_apart {t : Table} {name arg : Text} {o : LongOption} (hname : '=' ∉ name)
    (hfind : t.findLong name = some o) (harg : o.hasArg = .required) (rest : List Text) :
    longOption t (Item.element name none) (arg :: rest) =
      ⟨[.option o.val (some arg)], arg, rest⟩ := by
  obtain ⟨htake, hdrop⟩ := takeWhile_bare hname
  have htext : (Item.element name none).drop 2 = name := List.append_nil name
  unfold longOption
  dsimp only
  rw [htext, htake, hdrop, hfind]
  exact if_pos harg

theorem element_ne {name : Text} {arg : Option Text} (h : arg = none → name ≠ []) :
    ¬Item.element name arg = ['-', '-'] := by
  intro heq
  cases arg with
  | none => exact h rfl (by simpa [Item.element] using heq)
  | some text => simp [Item.element] at heq

theorem isOperand_element (name : Text) (arg : Option Text) :
    ¬isOperand (Item.element name arg) = true := by
  simp [isOperand, Item.element]

/-- An item in front of anything. -/
theorem getoptLong_item {t : Table} {i : Item} (h : i.Ok t) (last : Text) (operands : List Text)
    (rest : List Text) : ∃ last', getoptLong t last operands (i.args ++ rest) =
      (i.events t ++ (getoptLong t last' (operands ++ i.operands) rest).1,
        (getoptLong t last' (operands ++ i.operands) rest).2) := by
  cases i with
  | short c arg =>
    obtain ⟨hdash, hcolon, hsemi, hshort⟩ := h
    have hne : ¬['-', c] = ['-', '-'] := by simpa using hdash
    have hstep : step t last operands ['-', c] (arg :: rest) =
        ⟨[.option c.toNat (some arg)], arg, rest⟩ := by
      unfold step
      split
      · next heq =>
        cases heq
        exact absurd rfl hdash
      · show shortOptions t ['-', c] _ (arg :: rest) [c] = _
        unfold shortOptions
        rw [if_neg (by simp [hcolon, hsemi]), hshort]
        rfl
    have hoperands : operands ++ (Item.short c arg).operands = operands := List.append_nil _
    refine ⟨arg, ?_⟩
    show getoptLong t last operands (['-', c] :: arg :: rest) = _
    rw [getoptLong, if_neg hne, if_neg (by simp [isOperand]), hstep, hoperands]
    rfl
  | long name arg =>
    obtain ⟨hname, hempty, hfound⟩ := h
    have hstep : step t last operands (Item.element name arg) rest =
        ⟨(Item.long name arg).events t, Item.element name arg, rest⟩ :=
      longOption_element hname hfound rest
    have hoperands : operands ++ (Item.long name arg).operands = operands := List.append_nil _
    refine ⟨Item.element name arg, ?_⟩
    show getoptLong t last operands (Item.element name arg :: rest) = _
    rw [getoptLong, if_neg (element_ne hempty), if_neg (isOperand_element name arg), hstep,
      hoperands]
  | apart name arg =>
    obtain ⟨hname, hempty, o, hfind, harg⟩ := h
    have hstep : step t last operands (Item.element name none) (arg :: rest) =
        ⟨[.option o.val (some arg)], arg, rest⟩ := longOption_apart hname hfind harg rest
    have hoperands : operands ++ (Item.apart name arg).operands = operands := List.append_nil _
    have hevents : (Item.apart name arg).events t = [.option o.val (some arg)] := by
      rw [Item.events, hfind]
      rfl
    refine ⟨arg, ?_⟩
    show getoptLong t last operands (Item.element name none :: arg :: rest) = _
    rw [getoptLong, if_neg (element_ne fun _ => hempty), if_neg (isOperand_element name none),
      hstep, hoperands, hevents]
  | operand text =>
    have hne : ¬text = ['-', '-'] := by
      rintro rfl
      cases h
    refine ⟨last, ?_⟩
    show getoptLong t last operands (text :: rest) = _
    rw [getoptLong, if_neg hne, if_pos (show isOperand text = true from h)]
    rfl

/-- **What is written is read**: the options in their order, and the operands, wherever they stand. -/
theorem getoptLong_items {t : Table} {items : List Item} (h : ∀ i ∈ items, i.Ok t) (last : Text)
    (operands : List Text) :
    getoptLong t last operands (items.flatMap Item.args) =
      (items.flatMap (Item.events t), operands ++ items.flatMap Item.operands) := by
  induction items generalizing last operands with
  | nil =>
    rw [List.flatMap_nil, getoptLong]
    simp
  | cons i items ih =>
    obtain ⟨hi, hitems⟩ := List.forall_mem_cons.1 h
    obtain ⟨last', hitem⟩ := getoptLong_item hi last operands (items.flatMap Item.args)
    rw [List.flatMap_cons, hitem, ih hitems, List.flatMap_cons, List.flatMap_cons, List.append_assoc]

end Getopt
