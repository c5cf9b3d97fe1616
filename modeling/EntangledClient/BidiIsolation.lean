import EntangledClient.FlatBrackets

/-!
# Bidi isolation of publisher text

The shell draws publisher text between a first-strong isolate and a pop
directional isolate, with every bidi control of the text written out as a
visible escape.  Several runs give a flat sequence of such isolates, so no run
can reorder its neighbours.
-/

namespace EntangledClient

/-! ### The code -/

def isBidiControl (ch : Char) : Bool :=
  ch = '\u061C' || ch = '\u200E' || ch = '\u200F' ||
    ('\u202A' ≤ ch && ch ≤ '\u202E') || ('\u2066' ≤ ch && ch ≤ '\u2069')

/-- The format `{:04X}`: uppercase hexadecimal, padded with zeros to four digits. -/
def formatUpperHex (value : Nat) : String :=
  let digits := (Nat.toDigits 16 value).map Char.toUpper
  String.ofList (List.replicate (4 - digits.length) '0' ++ digits)

/-- One turn of the loop over the characters. -/
def isolateChar (isolated : String) (ch : Char) : String :=
  if isBidiControl ch then isolated ++ ("<U+" ++ formatUpperHex ch.toNat ++ ">")
  else isolated.push ch

def isolatePublisherText (value : String) : String :=
  let opened := String.push "" '\u2068'
  let isolated := value.toList.foldl isolateChar opened
  isolated.push '\u2069'

/-- The inline runs that the shell draws. -/
inductive InlineRun
  | text (text : String)
  | link (text : String)

/-- The publisher text that a run shows. -/
def InlineRun.shown : InlineRun → String
  | .text value => value
  | .link value => value

def runsText (runs : List InlineRun) : String :=
  runs.foldl
    (fun s run =>
      match run with
      | .text text | .link text => s ++ isolatePublisherText text)
    ""

/-! ### What the text has to look like -/

/-- The characters with the property `Bidi_Control` in Unicode 15.0. -/
def bidiControls : List Char :=
  ['\u061C', '\u200E', '\u200F', '\u202A', '\u202B', '\u202C', '\u202D', '\u202E',
    '\u2066', '\u2067', '\u2068', '\u2069']

/-- The four hexadecimal digits of a code point below 65536. -/
def fourDigits (codePoint : Nat) : List Char :=
  let digit (value : Nat) : Char := "0123456789ABCDEF".toList.getD (value % 16) '0'
  [digit (codePoint / 4096), digit (codePoint / 256), digit (codePoint / 16), digit codePoint]

/-- A control is shown as its escape, any other character as itself. -/
def visible (ch : Char) : List Char :=
  if ch ∈ bidiControls then '<' :: 'U' :: '+' :: (fourDigits ch.toNat ++ ['>']) else [ch]

/-- The isolates that a flat text may use. -/
def isolates : Brackets Char where
  opens ch := ch = '\u2066' || ch = '\u2067' || ch = '\u2068'
  closes ch := ch = '\u2069'

/-- A part of the text that isolates one publisher value. -/
structure Isolates (value : String) (part : List Char) : Prop where
  wrapped : ∃ inner, part = '\u2068' :: (inner ++ ['\u2069']) ∧
    inner = value.toList.flatMap visible ∧ ∀ ch ∈ inner, ch ∉ bidiControls
  recovered : (∀ ch ∈ value.toList, ch ∉ bidiControls) → part.tail.dropLast = value.toList

/-! ### The controls -/

theorem isBidiControl_of_mem {ch : Char} (control : ch ∈ bidiControls) :
    isBidiControl ch = true := by
  have all : bidiControls.all isBidiControl = true := by decide
  exact List.all_eq_true.mp all ch control

/-- The tests and ranges of the code hold no character beyond the list. -/
theorem mem_of_isBidiControl {ch : Char} (control : isBidiControl ch = true) :
    ch ∈ bidiControls := by
  have cases : ch = '\u061C' ∨ ch = '\u200E' ∨ ch = '\u200F' ∨
      ('\u202A' ≤ ch ∧ ch ≤ '\u202E') ∨ ('\u2066' ≤ ch ∧ ch ≤ '\u2069') := by
    simpa [isBidiControl, or_assoc] using control
  -- A range of code points is checked point by point.
  have inRange : ∀ codePoint ∈ List.range' 0x202A 5 ++ List.range' 0x2066 4,
      Char.ofNat codePoint ∈ bidiControls := by decide
  rcases cases with rfl | rfl | rfl | ⟨lower, upper⟩ | ⟨lower, upper⟩
  · decide
  · decide
  · decide
  · have low : 0x202A ≤ ch.toNat := lower
    have high : ch.toNat ≤ 0x202E := upper
    have listed := inRange ch.toNat (by simp; omega)
    rwa [Char.ofNat_toNat] at listed
  · have low : 0x2066 ≤ ch.toNat := lower
    have high : ch.toNat ≤ 0x2069 := upper
    have listed := inRange ch.toNat (by simp; omega)
    rwa [Char.ofNat_toNat] at listed

/-- The escape that the code formats is the one with four digits. -/
theorem formatUpperHex_control {ch : Char} (control : ch ∈ bidiControls) :
    (formatUpperHex ch.toNat).toList = fourDigits ch.toNat := by
  have all : bidiControls.all (fun ch =>
      (formatUpperHex ch.toNat).toList = fourDigits ch.toNat) = true := by decide
  exact of_decide_eq_true (List.all_eq_true.mp all ch control)

theorem not_control_of_mem_visible {ch shown : Char} (member : shown ∈ visible ch) :
    shown ∉ bidiControls := by
  by_cases control : ch ∈ bidiControls
  · have all : bidiControls.all (fun ch =>
        (visible ch).all fun shown => shown ∉ bidiControls) = true := by decide
    have none := List.all_eq_true.mp (List.all_eq_true.mp all ch control) shown member
    exact of_decide_eq_true none
  · rw [visible, if_neg control, List.mem_singleton] at member
    rw [member]
    exact control

/-! ### One value -/

theorem isolateChar_toList (isolated : String) (ch : Char) :
    (isolateChar isolated ch).toList = isolated.toList ++ visible ch := by
  by_cases control : ch ∈ bidiControls
  · have recognized := isBidiControl_of_mem control
    have digits := formatUpperHex_control control
    simp [isolateChar, recognized, visible, control, digits]
  · have recognized : ¬ isBidiControl ch = true := fun found =>
      control (mem_of_isBidiControl found)
    simp [isolateChar, recognized, visible, control]

/-- The loop appends what each character is shown as. -/
theorem foldl_isolateChar_toList (chars : List Char) (isolated : String) :
    (chars.foldl isolateChar isolated).toList =
      isolated.toList ++ chars.flatMap visible := by
  induction chars generalizing isolated with
  | nil => simp
  | cons ch chars ih =>
      rw [List.foldl_cons, ih, isolateChar_toList, List.flatMap_cons, List.append_assoc]

theorem isolatePublisherText_toList (value : String) :
    (isolatePublisherText value).toList =
      '\u2068' :: (value.toList.flatMap visible ++ ['\u2069']) := by
  have opened : (String.push "" '\u2068').toList = ['\u2068'] := rfl
  simp only [isolatePublisherText, String.toList_push, foldl_isolateChar_toList, opened]
  rfl

theorem not_control_of_mem_flatMap {value : String} {ch : Char}
    (member : ch ∈ value.toList.flatMap visible) : ch ∉ bidiControls := by
  rcases List.mem_flatMap.mp member with ⟨source, _, shown⟩
  exact not_control_of_mem_visible shown

/-- Text without controls is shown as it is. -/
theorem flatMap_visible_of_no_control {chars : List Char}
    (plain : ∀ ch ∈ chars, ch ∉ bidiControls) : chars.flatMap visible = chars := by
  induction chars with
  | nil => rfl
  | cons ch chars ih =>
      have first : visible ch = [ch] := by
        simp [visible, plain ch (List.mem_cons_self ..)]
      have rest := ih fun other member => plain other (List.mem_cons_of_mem _ member)
      rw [List.flatMap_cons, first, rest, List.singleton_append]

theorem isolatePublisherText_isolates (value : String) :
    Isolates value (isolatePublisherText value).toList where
  wrapped :=
    ⟨value.toList.flatMap visible, isolatePublisherText_toList value, rfl,
      fun _ => not_control_of_mem_flatMap⟩
  recovered := by
    intro plain
    rw [isolatePublisherText_toList, List.tail_cons, List.dropLast_concat,
      flatMap_visible_of_no_control plain]

/-! ### A list of runs -/

theorem neutral_of_not_control {ch : Char} (plain : ch ∉ bidiControls) :
    isolates.opens ch = false ∧ isolates.closes ch = false := by
  simp only [bidiControls, List.mem_cons, not_or] at plain
  simp [isolates, plain]

theorem isolatePublisherText_flat (value : String) :
    isolates.Flat (isolatePublisherText value).toList := by
  rw [isolatePublisherText_toList]
  exact Brackets.flat_wrapped rfl rfl rfl fun ch member =>
    neutral_of_not_control (not_control_of_mem_flatMap member)

/-- The loop over the runs appends one isolated part after the other. -/
theorem foldl_runs_toList (runs : List InlineRun) (s : String) :
    (runs.foldl
        (fun s run =>
          match run with
          | .text text | .link text => s ++ isolatePublisherText text)
        s).toList =
      s.toList ++ (runs.map fun run => (isolatePublisherText run.shown).toList).flatten := by
  induction runs generalizing s with
  | nil => simp
  | cons run runs ih =>
      rw [List.foldl_cons, ih, List.map_cons, List.flatten_cons, ← List.append_assoc]
      cases run with
      | text text => rw [String.toList_append, InlineRun.shown]
      | link text => rw [String.toList_append, InlineRun.shown]

theorem runsText_toList (runs : List InlineRun) :
    (runsText runs).toList =
      (runs.map fun run => (isolatePublisherText run.shown).toList).flatten := by
  rw [runsText, foldl_runs_toList]
  rfl

/-- The text of any runs is a flat sequence of isolates, one for each run. -/
theorem runsText_isolated (runs : List InlineRun) :
    ∃ parts, List.Forall₂ (fun run part => Isolates run.shown part) runs parts ∧
      (runsText runs).toList = parts.flatten ∧ isolates.Flat (runsText runs).toList := by
  have parts : List.Forall₂ (fun run part => Isolates run.shown part) runs
      (runs.map fun run => (isolatePublisherText run.shown).toList) := by
    induction runs with
    | nil => exact .nil
    | cons run runs ih => exact .cons (isolatePublisherText_isolates run.shown) ih
  have text := runsText_toList runs
  have flat : isolates.Flat (runsText runs).toList := by
    rw [text]
    apply Brackets.Flat.flatten
    intro part member
    rcases List.mem_map.mp member with ⟨run, _, rfl⟩
    exact isolatePublisherText_flat run.shown
  exact ⟨_, parts, text, flat⟩

end EntangledClient
