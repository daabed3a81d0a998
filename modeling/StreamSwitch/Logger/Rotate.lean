import StreamSwitch.Lib.Run
import StreamSwitch.Lib.Shelf
import StreamSwitch.Defs
import StreamSwitch.CString
import Mathlib.Data.Set.Card

/-!
# The rotating log file

`RotateLogger` of `stsw_rotate_logger.cc`. A call is the list of the system calls it
makes, so that what holds between two of them can be said; they succeed, but for a
`remove` or `rename` of a file that is not there, which changes nothing. A C string
is the list of its characters.

`history_kept`: whatever is logged, after every system call the files
`base.n, …, base.1, base` together are the last of the records written, each of
them complete. Only removing `base.n` loses records, and no file is longer than the
size limit and one record.
-/

namespace StreamSwitch

abbrev FilePath := List Char

/-- The files of the directory. -/
abbrev Files := FilePath → Option (List Char)

namespace Files

def remove (fs : Files) (path : FilePath) : Files := Function.update fs path none

def rename (fs : Files) (src dst : FilePath) : Files :=
  match fs src with
  | none => fs
  | some data => Function.update (Function.update fs src none) dst (some data)

/-- `open` with `O_CREAT`. -/
def create (fs : Files) (path : FilePath) : Files :=
  match fs path with
  | none => Function.update fs path (some [])
  | some _ => fs

def append (fs : Files) (path : FilePath) (data : List Char) : Files :=
  Function.update fs path (some ((fs path).getD [] ++ data))

end Files

/-- A descriptor opened for appending. No file is renamed while it is open, so the path still
names it. -/
structure OpenFile where
  path : FilePath
  offset : Nat
deriving DecidableEq

structure RotateLogger where
  pid : Int
  isInit : Bool := false
  progName : List Char := []
  baseName : List Char := []
  fileSize : Int := 0
  rotateNum : Int := 0
  logLevel : Int := 0
  fd : Option OpenFile := none

/-- A logger, the directory, and the records written so far. -/
structure LogState where
  logger : RotateLogger
  files : Files := fun _ => none
  written : List (List Char) := []

inductive SysCall
  | remove (path : FilePath)
  | rename (src dst : FilePath)
  | openFile (path : FilePath)
  | close
  | write (data : List Char)

/-- One system call; `write` is only called with a descriptor. -/
def LogState.perform (s : LogState) : SysCall → LogState
  | .remove path => { s with files := s.files.remove path }
  | .rename src dst => { s with files := s.files.rename src dst }
  | .openFile path =>
    let files := s.files.create path
    -- `lseek` to the end
    let offset := ((files path).getD []).length
    { s with files := files, logger := { s.logger with fd := some ⟨path, offset⟩ } }
  | .close => { s with logger := { s.logger with fd := none } }
  | .write data =>
    match s.logger.fd with
    | none => s
    | some f =>
      let files := s.files.append f.path data
      let offset := ((files f.path).getD []).length
      { logger := { s.logger with fd := some { f with offset := offset } }
        files := files
        written := s.written ++ [data] }

/-- `log_level_str[level]`, if there is such an element. -/
def logLevelStr (level : Int) : Option (List Char) :=
  if level < 0 then none
  else (["EMERG", "ALERT", "CRIT", "ERR", "WARNING", "NOTICE", "INFO", "DEBUG"][level.toNat]?).map
    String.toList

/-- `MAX_LOG_RECORD_SIZE`. -/
def maxLogRecordSize : Nat := 1024

namespace RotateLogger

variable (l : RotateLogger)

def checkFork (getpid : Int) : Bool := l.pid ≠ getpid

def isTooLarge : Bool :=
  match l.fd with
  | none => false
  | some f => f.offset ≥ l.fileSize

def closeFile : List SysCall := if l.fd.isSome then [.close] else []

def openFile : List SysCall := [.openFile (cStr l.baseName)]

/-- The name of a log file in a buffer of 1024 bytes. -/
def logFile (i : Nat) : FilePath :=
  if i > 0 then snprintf 1023 (cStr l.baseName ++ ['.'] ++ decimal i)
  else snprintf 1023 (cStr l.baseName)

/-- The loop of `ShiftFile` for `i - 1, …, 0`, with the two buffers that `src` and `dst` point
to. -/
def shiftLoop : Nat → FilePath → FilePath → List SysCall
  | 0, _, _ => []
  | i + 1, _, dst =>
    let src := l.logFile i
    .rename src dst :: shiftLoop i dst src

def shiftFile : List SysCall :=
  let n := l.rotateNum.toNat
  let logFile := l.logFile n
  .remove logFile :: l.shiftLoop n [] logFile

def checkRotateInternal (getpid : Int) : List SysCall :=
  -- protect a child process from writing to the log
  if l.checkFork getpid then l.closeFile
  else if l.isTooLarge then l.closeFile ++ l.shiftFile ++ l.openFile
  else []

def checkRotate (getpid : Int) : List SysCall :=
  if !l.isInit then [] else l.checkRotateInternal getpid

/-- The record of a message. -/
def logStr (timeStr level filename : List Char) (line : Int) (text : List Char) : List Char :=
  let header := snprintf (maxLogRecordSize - 1)
    (['['] ++ timeStr ++ [']', '['] ++ cStr l.progName ++ [']', '['] ++ level ++ [']', '['] ++
      filename ++ [':'] ++ decimal line ++ [']', ':', ' '])
  let logStr := header ++ snprintf (maxLogRecordSize - 1) text
  if logStr.getLast? = some '\n' then logStr else logStr ++ ['\n']

/-- `LogV`, with the time as `ctime_r` prints it and the text that the format gives (`none` for a
format error). `none` is a level outside of `log_level_str`. -/
def logV (getpid : Int) (timeStr : List Char) (level : Int) (filename : List Char) (line : Int)
    (text : Option (List Char)) : Option (List SysCall) :=
  if !l.isInit then some []
  else if level > l.logLevel then some []
  else
    match logLevelStr level with
    | none => none
    | some levelStr =>
      match text with
      | none => some []
      | some text => some (l.checkRotateInternal getpid ++
          [.write (l.logStr timeStr levelStr filename line text)])

/-- The constructor. -/
def constructed (getpid : Int) : RotateLogger := { pid := getpid }

def clampLogLevel (level : Int) : Int := if level < 0 then 0 else if level > 7 then 7 else level

/-- `Init`, without redirecting `stderr`. -/
def init (s : LogState) (progName baseName : List Char) (fileSize rotateNum logLevel : Int) :
    ErrorCode × LogState :=
  if fileSize ≤ 0 ∨ rotateNum < 0 then (.param, s)
  else if s.logger.isInit then (.general, s)
  else
    let logger := { s.logger with
      progName := progName
      baseName := baseName
      fileSize := fileSize
      rotateNum := rotateNum
      logLevel := clampLogLevel logLevel }
    let s := logger.openFile.foldl LogState.perform { s with logger := logger }
    (.ok, { s with logger := { s.logger with isInit := true } })

end RotateLogger

/-! ## Calls -/

inductive LogCall
  | log (timeStr : List Char) (level : Int) (filename : List Char) (line : Int)
      (text : Option (List Char))
  | checkRotate

namespace LogState

def sysCalls (getpid : Int) (s : LogState) : LogCall → Option (List SysCall)
  | .log timeStr level filename line text => s.logger.logV getpid timeStr level filename line text
  | .checkRotate => some (s.logger.checkRotate getpid)

def logStep (getpid : Int) (s : LogState) (c : LogCall) : Option LogState :=
  (s.sysCalls getpid c).map fun cs => cs.foldl perform s

/-- The step of one system call. -/
def sysStep (s : LogState) (c : SysCall) : Option LogState := some (s.perform c)

/-- The state that `Init` leaves in an empty directory. -/
def started (getpid : Int) (progName baseName : List Char) (fileSize rotateNum logLevel : Int) :
    LogState :=
  (RotateLogger.init { logger := .constructed getpid } progName baseName fileSize rotateNum
    logLevel).2

/-! ## The history -/

/-- `base` and `base.i`. -/
def fileName (baseName : List Char) : Nat → FilePath
  | 0 => cStr baseName
  | i + 1 => cStr baseName ++ ['.'] ++ decimal (i + 1 : Nat)

/-- The contents of the `i`-th file; a missing file is empty. -/
def file (s : LogState) (i : Nat) : List Char := (s.files (fileName s.logger.baseName i)).getD []

/-- `rotate_num_`. -/
def num (s : LogState) : Nat := s.logger.rotateNum.toNat

/-- All files one after the other, the oldest first. -/
def history (s : LogState) : List Char := Shelf.row s.file s.num

/-- The length of the longest record. -/
def longest (records : List (List Char)) : Nat := (records.map List.length).foldr max 0

/-- The files hold the last records. -/
structure HoldsHistory (s : LogState) : Prop where
  suffix : ∃ lost held, s.written = lost ++ held ∧ s.history = held.flatten
  names : ∀ path, (s.files path).isSome → ∃ i ≤ s.num, path = fileName s.logger.baseName i
  count : {path | (s.files path).isSome}.encard ≤ s.num + 1
  size : ∀ i ≤ s.num, (s.file i).length < s.logger.fileSize + longest s.written

/-- What `t` has lost of the history of `s` and of what was written since. -/
def Loses (s t : LogState) (lost : List Char) : Prop :=
  ∃ added, t.written = s.written ++ added ∧ s.history ++ added.flatten = lost ++ t.history

/-- That is nothing, or the contents of the oldest file. -/
def LosesOldest (s t : LogState) : Prop :=
  ∃ lost, s.Loses t lost ∧ (lost = [] ∨ lost = s.file s.num)

/-- After the system call the files hold the history, and it loses no more than the oldest file. -/
def Keeps (s : LogState) (c : SysCall) : Prop :=
  (s.perform c).HoldsHistory ∧ s.LosesOldest (s.perform c)

/-- The files hold the history before the call and after each of its system calls, and all of them
together, with a rotation among them, lose no more than the oldest file. -/
def KeepsHistory (getpid : Int) (s : LogState) (c : LogCall) : Prop :=
  s.HoldsHistory ∧ ∀ cs, s.sysCalls getpid c = some cs →
    Run.Each sysStep Keeps s cs ∧ s.LosesOldest (cs.foldl perform s)

/-! ## File names -/

/-- A name that fits the buffer is the name. -/
theorem logFile_eq {l : RotateLogger} {i : Nat} (h : (fileName l.baseName i).length ≤ 1022) :
    l.logFile i = fileName l.baseName i := by
  unfold RotateLogger.logFile
  cases i with
  | zero =>
    rw [if_neg (Nat.lt_irrefl 0)]
    exact snprintf_of_fits h fun c => ne_of_mem_cStr
  | succ i =>
    rw [if_pos (Nat.succ_pos i)]
    refine snprintf_of_fits h fun c hc => ?_
    rcases List.mem_append.1 hc with hc | hc
    · rcases List.mem_append.1 hc with hc | hc
      · exact ne_of_mem_cStr hc
      · rw [List.mem_singleton.1 hc]
        decide
    · exact ne_of_mem_decimal hc

theorem length_decimal_le {i n : Nat} (h : i ≤ n) :
    (decimal (i : Int)).length ≤ (decimal (n : Int)).length := by
  rw [decimal_ofNat, decimal_ofNat, Nat.length_toDigits_le_iff (by decide) Nat.length_toDigits_pos]
  refine Nat.lt_of_le_of_lt h ?_
  rw [← Nat.length_toDigits_le_iff (by decide) Nat.length_toDigits_pos]

theorem length_fileName_le (baseName : List Char) {i n : Nat} (h : i ≤ n) :
    (fileName baseName i).length ≤ (fileName baseName n).length := by
  cases n with
  | zero =>
    obtain rfl : i = 0 := by omega
    exact Nat.le_refl _
  | succ n =>
    cases i with
    | zero => simp [fileName]
    | succ i =>
      simp only [fileName, List.length_append]
      exact Nat.add_le_add_left (length_decimal_le h) _

/-- Each file has its own name. -/
theorem fileName_inj (baseName : List Char) {i j : Nat}
    (h : fileName baseName i = fileName baseName j) : i = j := by
  have hlen := congrArg List.length h
  cases i with
  | zero =>
    cases j with
    | zero => rfl
    | succ j =>
      simp only [fileName, List.length_append, List.length_singleton] at hlen
      omega
  | succ i =>
    cases j with
    | zero =>
      simp only [fileName, List.length_append, List.length_singleton] at hlen
      omega
    | succ j =>
      have hd := List.append_cancel_left h
      rw [decimal_ofNat, decimal_ofNat] at hd
      rw [← Nat.ofDigitChars_ten_toDigits (n := i + 1), hd, Nat.ofDigitChars_ten_toDigits]

/-! ## System calls -/

/-- The records that are in each file. -/
structure Stored (s : LogState) (seg : Nat → List (List Char)) : Prop where
  written : ∃ lost, s.written = lost ++ Shelf.row seg s.num
  file : ∀ i ≤ s.num, s.file i = (seg i).flatten
  missing : ∀ i ≤ s.num, s.files (fileName s.logger.baseName i) = none → seg i = []
  names : ∀ path, (s.files path).isSome → ∃ i ≤ s.num, path = fileName s.logger.baseName i
  size : ∀ i ≤ s.num, (s.file i).length < s.logger.fileSize + longest s.written

/-- At every moment. -/
structure LogInv (s : LogState) : Prop where
  pos : 0 < s.logger.fileSize
  fits : (fileName s.logger.baseName s.num).length ≤ 1022
  stored : ∃ seg, s.Stored seg

variable {s : LogState}

theorem Stored.history {seg : Nat → List (List Char)} (h : s.Stored seg) :
    s.history = (Shelf.row seg s.num).flatten := by
  rw [← Shelf.row_flatten]
  exact Shelf.row_congr h.file

theorem encard_names_le (b : List Char) (n : Nat) :
    {path | ∃ i ≤ n, path = fileName b i}.encard ≤ n + 1 := by
  have hset : {path | ∃ i ≤ n, path = fileName b i} = fileName b '' {i | i < n + 1} := by
    ext path
    simp only [Set.mem_ofPred_eq, Set.mem_image, Nat.lt_succ_iff]
    constructor
    · rintro ⟨i, hi, rfl⟩
      exact ⟨i, hi, rfl⟩
    · rintro ⟨i, hi, rfl⟩
      exact ⟨i, hi, rfl⟩
  rw [hset]
  refine le_trans (Set.encard_image_le _ _) ?_
  have hcard := Set.encard_coe_eq_coe_finsetCard (Finset.range (n + 1))
  rw [Finset.coe_range, Finset.card_range] at hcard
  exact le_of_eq hcard

theorem LogInv.holdsHistory (h : s.LogInv) : s.HoldsHistory := by
  obtain ⟨seg, hs⟩ := h.stored
  obtain ⟨lost, hw⟩ := hs.written
  refine ⟨⟨lost, _, hw, hs.history⟩, hs.names, ?_, hs.size⟩
  exact le_trans (Set.encard_le_encard hs.names) (encard_names_le _ _)

/-- A file of the row among others. -/
theorem update_fileName (fs : Files) (b : List Char) (i j : Nat) (v : Option (List Char)) :
    Function.update fs (fileName b i) v (fileName b j) =
      if j = i then v else fs (fileName b j) := by
  by_cases h : j = i
  · rw [h, Function.update_self, if_pos rfl]
  · rw [if_neg h, Function.update_of_ne]
    exact fun he => h (fileName_inj b he)

/-- What only opens or closes a file keeps the history. -/
theorem LogInv.same (h : s.LogInv) {t : LogState} (hb : t.logger.baseName = s.logger.baseName)
    (hn : t.logger.rotateNum = s.logger.rotateNum) (hz : t.logger.fileSize = s.logger.fileSize)
    (hw : t.written = s.written) (hf : ∀ i ≤ s.num, t.file i = s.file i)
    (hm : ∀ path, t.files path = none → s.files path = none)
    (hx : ∀ path, (t.files path).isSome → (s.files path).isSome ∨
      path = fileName s.logger.baseName 0) :
    t.LogInv ∧ s.Loses t [] := by
  obtain ⟨seg, hs⟩ := h.stored
  have hnum : t.num = s.num := congrArg Int.toNat hn
  refine ⟨⟨hz ▸ h.pos, by rw [hnum, hb]; exact h.fits, seg, ?_⟩, ?_⟩
  · constructor
    · rw [hw, hnum]
      exact hs.written
    · rw [hnum]
      exact fun i hi => (hf i hi).trans (hs.file i hi)
    · rw [hnum, hb]
      exact fun i hi hnone => hs.missing i hi (hm _ hnone)
    · rw [hnum, hb]
      intro path hp
      rcases hx path hp with hp | hp
      · exact hs.names path hp
      · exact ⟨0, Nat.zero_le _, hp⟩
    · rw [hnum, hz, hw]
      exact fun i hi => by rw [hf i hi]; exact hs.size i hi
  · refine ⟨[], by rw [hw, List.append_nil], ?_⟩
    have hhist : t.history = s.history := by
      unfold LogState.history
      rw [hnum]
      exact Shelf.row_congr hf
    rw [hhist]
    simp

theorem LogInv.close (h : s.LogInv) :
    (s.perform .close).LogInv ∧ s.Loses (s.perform .close) [] :=
  h.same rfl rfl rfl rfl (fun _ _ => rfl) (fun _ hp => hp) fun _ hp => .inl hp

/-- The descriptor is at the end of the newest file. -/
def AtEnd (s : LogState) : Prop :=
  s.logger.fd = some ⟨fileName s.logger.baseName 0, (s.file 0).length⟩

/-- Opening a file creates at most an empty one. -/
theorem create_cases (fs : Files) (path : FilePath) :
    fs.create path = fs ∨ (fs path = none ∧ fs.create path = Function.update fs path (some [])) := by
  unfold Files.create
  cases fs path with
  | none => exact .inr ⟨rfl, rfl⟩
  | some data => exact .inl rfl

theorem LogInv.openFile (h : s.LogInv) {t : LogState}
    (ht : t = s.perform (.openFile (fileName s.logger.baseName 0))) :
    t.LogInv ∧ s.Loses t [] ∧ t.AtEnd := by
  have hfiles : t.files = s.files.create (fileName s.logger.baseName 0) := by rw [ht]; rfl
  have hend : t.AtEnd := by rw [ht]; rfl
  have hinv : t.LogInv ∧ s.Loses t [] := by
    have hb : t.logger.baseName = s.logger.baseName := by rw [ht]; rfl
    rcases create_cases s.files (fileName s.logger.baseName 0) with he | ⟨hnone, he⟩
    · rw [he] at hfiles
      refine h.same hb (by rw [ht]; rfl) (by rw [ht]; rfl) (by rw [ht]; rfl) ?_ ?_ ?_
      · intro i _
        unfold file
        rw [hfiles, hb]
      · rw [hfiles]
        exact fun _ hp => hp
      · rw [hfiles]
        exact fun _ hp => .inl hp
    · rw [he] at hfiles
      refine h.same hb (by rw [ht]; rfl) (by rw [ht]; rfl) (by rw [ht]; rfl) ?_ ?_ ?_
      · intro i _
        unfold file
        rw [hfiles, hb, update_fileName]
        split
        · next h0 => rw [h0, hnone]; rfl
        · rfl
      · intro path hp
        rw [hfiles, Function.update_apply] at hp
        split at hp
        · cases hp
        · exact hp
      · intro path hp
        rw [hfiles, Function.update_apply] at hp
        split at hp
        · next hpath => exact .inr hpath
        · exact .inl hp
  exact ⟨hinv.1, hinv.2, hend⟩

/-- The `i`-th file is missing. -/
def Missing (s : LogState) (i : Nat) : Prop := s.files (fileName s.logger.baseName i) = none

/-- Removing the oldest file. -/
theorem LogInv.remove (h : s.LogInv) {t : LogState}
    (ht : t = s.perform (.remove (fileName s.logger.baseName s.num))) :
    t.LogInv ∧ s.Loses t (s.file s.num) ∧ t.Missing s.num := by
  subst ht
  obtain ⟨seg, hs⟩ := h.stored
  obtain ⟨lost, hw⟩ := hs.written
  have hfile : ∀ i, (s.perform (.remove (fileName s.logger.baseName s.num))).file i =
      if i = s.num then [] else s.file i := by
    intro i
    show (Function.update s.files _ none (fileName s.logger.baseName i)).getD [] = _
    rw [update_fileName]
    split
    · rfl
    · rfl
  have hstored : (s.perform (.remove (fileName s.logger.baseName s.num))).Stored
      (Function.update seg s.num []) := by
    constructor
    · exact ⟨lost ++ seg s.num, by rw [List.append_assoc]; exact Shelf.row_eq_append seg s.num ▸ hw⟩
    · intro i hi
      rw [hfile, Function.update_apply]
      split
      · rfl
      · exact hs.file i hi
    · intro i hi hm
      rw [Function.update_apply]
      split
      · rfl
      · next hne =>
        have hm' : Function.update s.files (fileName s.logger.baseName s.num) none
          (fileName s.logger.baseName i) = none := hm
        rw [update_fileName, if_neg hne] at hm'
        exact hs.missing i hi hm'
    · intro path hp
      have hp' : (Function.update s.files (fileName s.logger.baseName s.num) none path).isSome := hp
      rw [Function.update_apply] at hp'
      split at hp'
      · cases hp'
      · exact hs.names path hp'
    · intro i hi
      have hpos := h.pos
      have hsize := hs.size i hi
      rw [hfile]
      show _ < s.logger.fileSize + longest s.written
      split
      · show (0 : Int) < _
        omega
      · exact hsize
  refine ⟨⟨h.pos, h.fits, _, hstored⟩, ?_, ?_⟩
  · refine ⟨[], (List.append_nil _).symm, ?_⟩
    have hh := hstored.history
    rw [hh, hs.history, hs.file s.num (Nat.le_refl _), List.flatten_nil, List.append_nil,
      ← List.flatten_append]
    exact congrArg List.flatten (Shelf.row_eq_append seg s.num)
  · exact Function.update_self ..

/-- The files after one of the row is renamed to the place above it. -/
theorem files_rename {i : Nat} {data : List Char}
    (hc : s.files (fileName s.logger.baseName i) = some data) :
    (s.perform (.rename (fileName s.logger.baseName i)
      (fileName s.logger.baseName (i + 1)))).files =
      Function.update (Function.update s.files (fileName s.logger.baseName i) none)
        (fileName s.logger.baseName (i + 1)) (some data) := by
  simp only [perform, Files.rename, hc]

/-- Renaming a file moves its records with it. -/
theorem Stored.move {seg : Nat → List (List Char)} (hs : s.Stored seg)
    (hpos : 0 < s.logger.fileSize) {i : Nat} (hi : i + 1 ≤ s.num) (hfree : s.Missing (i + 1))
    {data : List Char} (hc : s.files (fileName s.logger.baseName i) = some data) :
    (s.perform (.rename (fileName s.logger.baseName i)
      (fileName s.logger.baseName (i + 1)))).Stored (Shelf.move seg i) := by
  have hupd := files_rename hc
  generalize ht : s.perform (.rename (fileName s.logger.baseName i)
    (fileName s.logger.baseName (i + 1))) = t at hupd ⊢
  have hlog : t.logger = s.logger := by rw [← ht]; rfl
  have hnum : t.num = s.num := by rw [← ht]; rfl
  have hwritten : t.written = s.written := by rw [← ht]; rfl
  have hfiles : ∀ j, t.files (fileName s.logger.baseName j) =
      if j = i + 1 then some data else if j = i then none
      else s.files (fileName s.logger.baseName j) := by
    intro j
    rw [hupd, update_fileName, update_fileName]
  have hfile : ∀ j, t.file j = Shelf.move s.file i j := by
    intro j
    unfold LogState.file
    rw [hlog, hfiles]
    by_cases h1 : j = i + 1
    · rw [if_pos h1, h1, Shelf.move_succ, hc]
    · by_cases h2 : j = i
      · rw [if_neg h1, if_pos h2, h2, Shelf.move_self]
        rfl
      · rw [if_neg h1, if_neg h2, Shelf.move_of_ne _ h2 h1]
  have hi' : i ≤ s.num := Nat.le_of_succ_le hi
  constructor
  · obtain ⟨lost, hw⟩ := hs.written
    have hhole : seg (i + 1) = [] := hs.missing (i + 1) hi hfree
    exact ⟨lost, by rw [hwritten, hnum, hw, Shelf.row_move hhole hi]⟩
  · intro j hj
    rw [hnum] at hj
    rw [hfile]
    exact Shelf.move_rel (R := fun data records => data = records.flatten) rfl hi' hs.file j hj
  · intro j hj hm
    rw [hlog, hfiles] at hm
    rw [hnum] at hj
    split at hm
    · cases hm
    · next h1 =>
      split at hm
      · next h2 => rw [h2, Shelf.move_self]
      · next h2 =>
        rw [Shelf.move_of_ne _ h2 h1]
        exact hs.missing j hj hm
  · intro path hp
    rw [hlog, hnum]
    rw [hupd, Function.update_apply, Function.update_apply] at hp
    split at hp
    · next he => exact ⟨i + 1, hi, he⟩
    · split at hp
      · cases hp
      · exact hs.names path hp
  · intro j hj
    rw [hnum] at hj
    rw [hfile, hlog, hwritten]
    refine Shelf.move_rel (g := s.file)
      (R := fun data _ => (data.length : Int) < s.logger.fileSize + longest s.written) ?_ hi'
      hs.size j hj
    show (0 : Int) < _
    omega

/-- Renaming a file to a name that is free. -/
theorem LogInv.rename (h : s.LogInv) {i : Nat} (hi : i + 1 ≤ s.num) (hfree : s.Missing (i + 1))
    {t : LogState} (ht : t = s.perform (.rename (fileName s.logger.baseName i)
      (fileName s.logger.baseName (i + 1)))) :
    t.LogInv ∧ s.Loses t [] ∧ t.Missing i := by
  obtain ⟨seg, hs⟩ := h.stored
  cases hc : s.files (fileName s.logger.baseName i) with
  | none =>
    have ht' : t = s := by
      rw [ht]
      simp only [perform, Files.rename, hc]
    rw [ht']
    have hsame := h.same (t := s) rfl rfl rfl rfl (fun _ _ => rfl) (fun _ hp => hp)
      fun _ hp => .inl hp
    exact ⟨h, hsame.2, hc⟩
  | some data =>
    have hstored := hs.move h.pos hi hfree hc
    have hupd := files_rename hc
    rw [← ht] at hstored hupd
    have hlog : t.logger = s.logger := by rw [ht]; rfl
    have hnum : t.num = s.num := by rw [ht]; rfl
    have hwritten : t.written = s.written := by rw [ht]; rfl
    refine ⟨⟨by rw [hlog]; exact h.pos, by rw [hlog, hnum]; exact h.fits, _, hstored⟩, ?_, ?_⟩
    · refine ⟨[], by rw [hwritten, List.append_nil], ?_⟩
      have hhole : seg (i + 1) = [] := hs.missing (i + 1) hi hfree
      rw [hstored.history, hs.history, hnum, Shelf.row_move hhole hi]
      simp
    · show t.files (fileName t.logger.baseName i) = none
      rw [hlog, hupd, update_fileName, update_fileName, if_neg (by omega), if_pos rfl]

theorem longest_append (records : List (List Char)) (data : List Char) :
    longest (records ++ [data]) = max (longest records) data.length := by
  induction records with
  | nil => simp [longest]
  | cons r rs ih =>
    simp only [longest, List.cons_append, List.map_cons, List.foldr_cons] at ih ⊢
    rw [ih]
    omega

/-- Writing to a file that is not yet too large. -/
theorem LogInv.write (h : s.LogInv) (hend : s.AtEnd)
    (hsmall : (s.file 0).length < s.logger.fileSize) (data : List Char) {t : LogState}
    (ht : t = s.perform (.write data)) : t.LogInv ∧ s.Loses t [] ∧ t.AtEnd := by
  obtain ⟨seg, hs⟩ := h.stored
  unfold AtEnd at hend
  simp only [perform, hend] at ht
  have hfiles : t.files = Function.update s.files (fileName s.logger.baseName 0)
      (some (s.file 0 ++ data)) := by rw [ht]; rfl
  have hb : t.logger.baseName = s.logger.baseName := by rw [ht]
  have hz : t.logger.fileSize = s.logger.fileSize := by rw [ht]
  have hnum : t.num = s.num := by rw [ht]; rfl
  have hwritten : t.written = s.written ++ [data] := by rw [ht]
  have hfile : ∀ j, t.file j = if j = 0 then s.file 0 ++ data else s.file j := by
    intro j
    unfold LogState.file
    rw [hb, hfiles, update_fileName]
    split
    · rfl
    · rfl
  have hstored : t.Stored (Function.update seg 0 (seg 0 ++ [data])) := by
    constructor
    · obtain ⟨lost, hw⟩ := hs.written
      exact ⟨lost, by rw [hwritten, hnum, hw, Shelf.row_update_zero, List.append_assoc]⟩
    · intro j hj
      rw [hnum] at hj
      rw [hfile, Function.update_apply]
      split
      · rw [hs.file 0 (Nat.zero_le _)]
        simp
      · exact hs.file j hj
    · intro j hj hm
      rw [hb, hfiles, update_fileName] at hm
      rw [hnum] at hj
      split at hm
      · cases hm
      · next hne =>
        rw [Function.update_of_ne hne]
        exact hs.missing j hj hm
    · intro path hp
      rw [hnum, hb]
      rw [hfiles, Function.update_apply] at hp
      split at hp
      · next he => exact ⟨0, Nat.zero_le _, he⟩
      · exact hs.names path hp
    · intro j hj
      rw [hnum] at hj
      rw [hfile, hz, hwritten, longest_append]
      have hsize := hs.size j hj
      split
      · rw [List.length_append]
        omega
      · omega
  refine ⟨⟨by rw [hz]; exact h.pos, by rw [hb, hnum]; exact h.fits, _, hstored⟩, ?_, ?_⟩
  · refine ⟨[data], hwritten, ?_⟩
    rw [hstored.history, hs.history, hnum, Shelf.row_update_zero]
    simp
  · unfold AtEnd
    rw [hfile, if_pos rfl, ht]
    simp [Files.append, LogState.file]

/-! ## Calls of the logger -/

theorem Loses.refl (s : LogState) : s.Loses s [] := ⟨[], by simp, by simp⟩

theorem Loses.trans {t u : LogState} {lost lost' : List Char} (h : s.Loses t lost)
    (h' : t.Loses u lost') : s.Loses u (lost ++ lost') := by
  obtain ⟨added, hw, hh⟩ := h
  obtain ⟨added', hw', hh'⟩ := h'
  refine ⟨added ++ added', by rw [hw', hw, List.append_assoc], ?_⟩
  rw [List.flatten_append, ← List.append_assoc, hh, List.append_assoc, hh', List.append_assoc]

/-- The system calls keep the history, lead to `t` and lose `lost`. -/
def Leads (s : LogState) (cs : List SysCall) (t : LogState) (lost : List Char) : Prop :=
  cs.foldl perform s = t ∧ Run.Each sysStep Keeps s cs ∧ s.Loses t lost

theorem Leads.nil (s : LogState) : s.Leads [] s [] := ⟨rfl, trivial, .refl s⟩

/-- A system call that loses nothing. -/
theorem Leads.cons {c : SysCall} {cs : List SysCall} {t u : LogState} {lost : List Char}
    (ht : t = s.perform c) (hc : t.LogInv) (hl : s.Loses t []) (h : t.Leads cs u lost) :
    s.Leads (c :: cs) u lost := by
  subst ht
  exact ⟨h.1, .cons rfl ⟨hc.holdsHistory, [], hl, .inl rfl⟩ h.2.1, hl.trans h.2.2⟩

/-- A system call that loses the oldest file. -/
theorem Leads.cons_oldest {c : SysCall} {cs : List SysCall} {t u : LogState}
    (ht : t = s.perform c) (hc : t.LogInv) (hl : s.Loses t (s.file s.num)) (h : t.Leads cs u []) :
    s.Leads (c :: cs) u (s.file s.num) := by
  subst ht
  refine ⟨h.1, .cons rfl ⟨hc.holdsHistory, _, hl, .inr rfl⟩ h.2.1, ?_⟩
  simpa using hl.trans h.2.2

theorem Leads.append {cs cs' : List SysCall} {t u : LogState} {lost lost' : List Char}
    (h : s.Leads cs t lost) (h' : t.Leads cs' u lost') : s.Leads (cs ++ cs') u (lost ++ lost') := by
  have heach : ∀ {s : LogState} {cs : List SysCall}, cs.foldl perform s = t →
      Run.Each sysStep Keeps s cs → Run.Each sysStep Keeps s (cs ++ cs') := by
    intro s cs hrun hkeeps
    induction cs generalizing s with
    | nil =>
      cases hrun
      exact h'.2.1
    | cons c cs ih => exact .cons rfl hkeeps.1 (ih hrun (hkeeps.2 _ rfl))
  refine ⟨?_, heach h.1 h.2.1, h.2.2.trans h'.2.2⟩
  rw [List.foldl_append, h.1, h'.1]

/-- A system call changes the descriptor of the logger at most. -/
theorem perform_logger (s : LogState) (c : SysCall) :
    (s.perform c).logger = { s.logger with fd := (s.perform c).logger.fd } := by
  cases c with
  | write data =>
    unfold perform
    cases hf : s.logger.fd with
    | none => simp only [hf]; rw [← hf]
    | some f => rfl
  | _ => rfl

theorem Leads.logger {cs : List SysCall} {t : LogState} {lost : List Char} (h : s.Leads cs t lost) :
    t.logger = { s.logger with fd := t.logger.fd } := by
  obtain ⟨hrun, -⟩ := h
  induction cs generalizing s with
  | nil =>
    cases hrun
    rfl
  | cons c cs ih => rw [ih hrun, perform_logger]

/-- The loop of `ShiftFile` moves the hole down to the newest file. -/
theorem shiftLoop_leads {l : RotateLogger} {i : Nat} (src : FilePath) {dst : FilePath}
    (hl : l.baseName = s.logger.baseName) (h : s.LogInv) (hi : i ≤ s.num) (hm : s.Missing i)
    (hdst : dst = fileName l.baseName i) :
    ∃ t, s.Leads (l.shiftLoop i src dst) t [] ∧ t.LogInv ∧ t.Missing 0 := by
  induction i generalizing s src dst with
  | zero => exact ⟨s, .nil s, h, hm⟩
  | succ i ih =>
    have hfits := Nat.le_trans (length_fileName_le s.logger.baseName (Nat.le_of_succ_le hi)) h.fits
    have hsrc : l.logFile i = fileName l.baseName i := logFile_eq (by rw [hl]; exact hfits)
    obtain ⟨h1, h2, h3⟩ := h.rename hi hm rfl
    rw [← hl, ← hsrc, ← hdst] at h1 h2 h3
    obtain ⟨t, hlead, ht⟩ := ih (s := s.perform (.rename (l.logFile i) dst)) dst hl h1
      (Nat.le_of_succ_le hi) h3 hsrc
    exact ⟨t, hlead.cons rfl h1 h2, ht⟩

theorem shiftFile_leads {l : RotateLogger} (hl : l.baseName = s.logger.baseName)
    (hn : l.rotateNum = s.logger.rotateNum) (h : s.LogInv) :
    ∃ t, s.Leads l.shiftFile t (s.file s.num) ∧ t.LogInv ∧ t.Missing 0 := by
  have hnum : l.rotateNum.toNat = s.num := congrArg Int.toNat hn
  have hname : l.logFile s.num = fileName l.baseName s.num := logFile_eq (by rw [hl]; exact h.fits)
  obtain ⟨h1, h2, h3⟩ := h.remove rfl
  rw [← hl, ← hname] at h1 h2 h3
  obtain ⟨t, hlead, ht⟩ := shiftLoop_leads (s := s.perform (.remove (l.logFile s.num))) [] hl h1
    (Nat.le_refl _) h3 hname
  unfold RotateLogger.shiftFile
  rw [hnum]
  exact ⟨t, hlead.cons_oldest rfl h1 h2, ht⟩

theorem openFile_leads {l : RotateLogger} (hl : l.baseName = s.logger.baseName) (h : s.LogInv) :
    ∃ t, s.Leads l.openFile t [] ∧ t.LogInv ∧ t.AtEnd ∧ t.file 0 = s.file 0 := by
  obtain ⟨h1, h2, h3⟩ := h.openFile rfl
  refine ⟨_, ?_, h1, h3, ?_⟩
  · unfold RotateLogger.openFile
    rw [hl]
    exact Leads.cons rfl h1 h2 (.nil _)
  · show ((s.files.create (fileName s.logger.baseName 0)) (fileName s.logger.baseName 0)).getD [] =
      (s.files (fileName s.logger.baseName 0)).getD []
    rcases create_cases s.files (fileName s.logger.baseName 0) with he | ⟨hnone, he⟩
    · rw [he]
    · rw [he, Function.update_self, hnone]
      rfl

/-- Between two calls of the logger. -/
structure CallInv (getpid : Int) (s : LogState) : Prop extends LogInv s where
  atEnd : s.AtEnd
  pid : s.logger.pid = getpid

variable {getpid : Int}

/-- The check makes room in the newest file. -/
theorem CallInv.checkRotateInternal (h : s.CallInv getpid) :
    ∃ t lost, s.Leads (s.logger.checkRotateInternal getpid) t lost ∧
      (lost = [] ∨ lost = s.file s.num) ∧ t.CallInv getpid ∧
      (t.file 0).length < t.logger.fileSize := by
  have hend := h.atEnd
  unfold AtEnd at hend
  have hfork : s.logger.checkFork getpid = false := by
    simp [RotateLogger.checkFork, h.pid]
  unfold RotateLogger.checkRotateInternal
  rw [if_neg (by simp [hfork])]
  split
  · -- too large: close, shift, open
    have hclose : s.logger.closeFile = [.close] := by simp [RotateLogger.closeFile, hend]
    obtain ⟨h1, h2⟩ := h.toLogInv.close
    have hlead1 : s.Leads [.close] (s.perform .close) [] := Leads.cons rfl h1 h2 (.nil _)
    obtain ⟨t, hlead2, ht, hm⟩ := shiftFile_leads (l := s.logger) (s := s.perform .close) rfl rfl h1
    have hlog := (hlead1.append hlead2).logger
    obtain ⟨u, hlead3, hu, huend, hfile⟩ := openFile_leads (l := s.logger) (s := t)
      (by rw [hlog]) ht
    rw [hclose]
    have hlead := (hlead1.append hlead2).append hlead3
    refine ⟨u, _, hlead, .inr (List.append_nil _), ⟨hu, huend, ?_⟩, ?_⟩
    · rw [hlead.logger]
      exact h.pid
    · have hempty : t.file 0 = [] := by
        unfold LogState.file
        rw [hm]
        rfl
      rw [hfile, hempty]
      exact hu.pos
  · next hsmall =>
    refine ⟨s, [], .nil s, .inl rfl, h, ?_⟩
    unfold RotateLogger.isTooLarge at hsmall
    rw [hend] at hsmall
    simpa using hsmall

/-- The system calls of a call keep the history, and it can be followed by another call. -/
theorem CallInv.sysCalls (h : s.CallInv getpid) {c : LogCall} {cs : List SysCall}
    (hcs : s.sysCalls getpid c = some cs) :
    ∃ t lost, s.Leads cs t lost ∧ (lost = [] ∨ lost = s.file s.num) ∧ t.CallInv getpid := by
  have hnone : s.Leads [] s [] ∧ (([] : List Char) = [] ∨ [] = s.file s.num) ∧ s.CallInv getpid :=
    ⟨.nil s, .inl rfl, h⟩
  have hcheck := h.checkRotateInternal
  cases c with
  | log timeStr level filename line text =>
    simp only [LogState.sysCalls, RotateLogger.logV] at hcs
    split at hcs
    · cases hcs
      exact ⟨s, [], hnone⟩
    · split at hcs
      · cases hcs
        exact ⟨s, [], hnone⟩
      · split at hcs
        · cases hcs
        · next levelStr _ =>
          cases text with
          | none =>
            cases hcs
            exact ⟨s, [], hnone⟩
          | some text =>
            cases hcs
            obtain ⟨t, lost, hlead, hlost, ht, hsmall⟩ := hcheck
            obtain ⟨h1, h2, h3⟩ := ht.toLogInv.write ht.atEnd hsmall
              (s.logger.logStr timeStr levelStr filename line text) rfl
            refine ⟨_, _, hlead.append (Leads.cons rfl h1 h2 (.nil _)), ?_, h1, h3, ?_⟩
            · rwa [List.append_nil]
            · rw [perform_logger]
              exact ht.pid
  | checkRotate =>
    simp only [LogState.sysCalls, RotateLogger.checkRotate] at hcs
    split at hcs
    · cases hcs
      exact ⟨s, [], hnone⟩
    · cases hcs
      obtain ⟨t, lost, hlead, hlost, ht, -⟩ := hcheck
      exact ⟨t, lost, hlead, hlost, ht⟩

/-! ## Runs -/

/-- Nothing is stored in an empty directory. -/
theorem logInv_empty {l : RotateLogger} (hpos : 0 < l.fileSize)
    (hfits : (fileName l.baseName l.rotateNum.toNat).length ≤ 1022) :
    LogInv { logger := l } := by
  refine ⟨hpos, hfits, fun _ => [], ⟨[], ?_⟩, fun _ _ => rfl, fun _ _ _ => rfl, ?_, ?_⟩
  · rw [Shelf.row_nil]
    rfl
  · intro path hp
    cases hp
  · intro i _
    show (0 : Int) < l.fileSize + 0
    omega

theorem callInv_started (getpid : Int) (progName : List Char) {baseName : List Char}
    {fileSize rotateNum : Int} (logLevel : Int) (hsize : 0 < fileSize) (hnum : 0 ≤ rotateNum)
    (hname : (fileName baseName rotateNum.toNat).length ≤ 1022) :
    (started getpid progName baseName fileSize rotateNum logLevel).CallInv getpid := by
  unfold started RotateLogger.init
  rw [if_neg (by omega), if_neg (by simp [RotateLogger.constructed])]
  obtain ⟨t, ⟨rfl, -⟩, h1, h2, -⟩ := openFile_leads rfl (logInv_empty
    (l := { RotateLogger.constructed getpid with
      progName := progName
      baseName := baseName
      fileSize := fileSize
      rotateNum := rotateNum
      logLevel := RotateLogger.clampLogLevel logLevel }) hsize hname)
  refine ⟨?_, h2, rfl⟩
  refine (h1.same ?_ ?_ ?_ ?_ ?_ ?_ ?_).1
  · rfl
  · rfl
  · rfl
  · rfl
  · exact fun _ _ => rfl
  · exact fun _ hp => hp
  · exact fun _ hp => .inl hp

/-- **The log keeps the last records** at every moment of every run of calls: the files one after
the other are a suffix of what was written that starts with a record, there are at most
`rotate_num_ + 1` of them, none is longer than the limit and one record, and a rotation loses no
record outside of the oldest file. -/
theorem history_kept (getpid : Int) (progName baseName : List Char) (fileSize rotateNum logLevel : Int)
    (hsize : 0 < fileSize) (hnum : 0 ≤ rotateNum)
    (hname : (fileName baseName rotateNum.toNat).length ≤ 1022) (calls : List LogCall) :
    (started getpid progName baseName fileSize rotateNum logLevel).HoldsHistory ∧
      Run.Each (logStep getpid) (KeepsHistory getpid)
        (started getpid progName baseName fileSize rotateNum logLevel) calls := by
  have h0 := callInv_started getpid progName logLevel hsize hnum hname
  refine ⟨h0.holdsHistory, Run.each_inv ?_ ?_ calls h0⟩
  · intro s c s' h hs
    unfold logStep at hs
    rw [Option.map_eq_some_iff] at hs
    obtain ⟨cs, hcs, rfl⟩ := hs
    obtain ⟨t, lost, ⟨rfl, -⟩, -, ht⟩ := h.sysCalls hcs
    exact ht
  · intro s c h
    refine ⟨h.holdsHistory, fun cs hcs => ?_⟩
    obtain ⟨t, lost, ⟨rfl, hkeeps, hloses⟩, hlost, -⟩ := h.sysCalls hcs
    exact ⟨hkeeps, lost, hloses, hlost⟩

/-- With a limit of one byte each record gets its own file, and the third one pushes the first
out. -/
theorem history_kept_three :
    (fileName ['l'] 1).length ≤ 1022 ∧
      Run.Each (logStep 1) (KeepsHistory 1) (started 1 ['p'] ['l'] 1 1 7)
        [.log [] 6 ['f'] 1 (some ['a']), .log [] 6 ['f'] 2 (some ['b']),
         .log [] 6 ['f'] 3 (some ['c'])] := by
  have hname : (fileName ['l'] 1).length ≤ 1022 := by decide
  exact ⟨hname, (history_kept 1 ['p'] ['l'] 1 1 7 (by decide) (by decide) hname _).2⟩

end LogState

end StreamSwitch
