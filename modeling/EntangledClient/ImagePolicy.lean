import EntangledClient.CallTree
import EntangledClient.CoreTypes
import Mathlib.Algebra.GroupWithZero.Nat
import Mathlib.Data.Finset.Insert
import Mathlib.Data.List.TakeWhile

/-!
# Image-resource verification policy

An image passes a fixed order of checks before it may be rendered.  Decoding is
a call to the shell's decoder; the checks before it bound what the decoder sees,
and the checks after it charge the decoded pixels to the budget of the document.
A failed image is recorded, so that it is not tried again.
-/

namespace EntangledClient

open CallTree

/-- The permitted media types of an image. -/
inductive ImageMediaType
  | png
  | jpeg
  | webp
  deriving DecidableEq

/-- A path within a site. -/
@[ext]
structure EntangledPath where
  text : String
  deriving DecidableEq

/-- What the image policy uses of `entangled-core`. -/
structure ImageCore where
  ImageHash : Type
  decEq : DecidableEq ImageHash
  sha256Image : Bytes → ImageHash
  /-- The text of a hash. -/
  hashText : ImageHash → String

attribute [instance] ImageCore.decEq

/-- The declared `image` block. -/
structure ImageRef (I : ImageCore) where
  src : EntangledPath
  sha256 : I.ImageHash
  mediaType : ImageMediaType
  width : UInt32
  height : UInt32

/-- The diagnostics of an image. -/
inductive ImageDiagnosticCode
  | wImageFetchFailed
  | wImageContentType
  | wImageOversize
  | wImageHashMismatch
  | wImageDecodeFailed
  | wImageDimensions
  | wImageBudget
  deriving DecidableEq

def maxImageBytes : Nat := 2 * 1024 * 1024

def maxDecodedPixels : UInt64 := 16777216

structure Decoded where
  width : UInt32
  height : UInt32
  animated : Bool
  deriving DecidableEq

inductive DecodeError
  | decodeError
  deriving DecidableEq

/-! ### The decoder -/

/-- One call to the decoder. -/
structure DecodeCall where
  bytes : Bytes
  mediaType : ImageMediaType
  deriving DecidableEq

/-- A decoder only ever returns a result. -/
@[reducible]
def decoderInterface : Interface where
  Call := DecodeCall
  Result := fun _ => Except DecodeError Decoded
  Error := Empty

abbrev DecoderProgram := Program decoderInterface

def decode (bytes : Bytes) (mediaType : ImageMediaType) :
    DecoderProgram (Except DecodeError Decoded) :=
  Program.perform (I := decoderInterface) ⟨bytes, mediaType⟩

/-- What a decoder returns. -/
abbrev Decoder := Bytes → ImageMediaType → Except DecodeError Decoded

/-- A decoder, with the calls made to it. -/
def Decoder.handler (decoder : Decoder) : Handler decoderInterface (List DecodeCall) :=
  fun request calls => (.ok (decoder request.bytes request.mediaType), calls ++ [request])

/-! ### The budget of a document -/

structure ImageBudget where
  used : UInt64
  deriving DecidableEq

namespace ImageBudget

def new : ImageBudget :=
  ⟨0⟩

/-- `u64::checked_add` -/
def checkedAdd (first second : UInt64) : Option UInt64 :=
  if first.toNat + second.toNat < 2 ^ 64 then some (first + second) else none

def tryCharge (budget : ImageBudget) (width height : UInt32) : Bool × ImageBudget :=
  let pixels := width.toUInt64 * height.toUInt64
  match checkedAdd budget.used pixels with
  | some total => if total ≤ maxDecodedPixels then (true, ⟨total⟩) else (false, budget)
  | none => (false, budget)

end ImageBudget

/-! ### The failed triples of a session -/

def mediaTypeStr : ImageMediaType → String
  | .png => "image/png"
  | .jpeg => "image/jpeg"
  | .webp => "image/webp"

structure NoRetrySet where
  failed : Finset String
  deriving DecidableEq

namespace NoRetrySet

variable {I : ImageCore}

def new : NoRetrySet :=
  ⟨∅⟩

def key (image : ImageRef I) : String :=
  image.src.text ++ "\x00" ++ I.hashText image.sha256 ++ "\x00" ++ mediaTypeStr image.mediaType

def contains (noRetry : NoRetrySet) (image : ImageRef I) : Bool :=
  key image ∈ noRetry.failed

def record (noRetry : NoRetrySet) (image : ImageRef I) : NoRetrySet :=
  ⟨insert (key image) noRetry.failed⟩

end NoRetrySet

/-! ### The checks -/

inductive ImageOutcome
  | accept (decoded : Decoded)
  | reject (code : ImageDiagnosticCode)
  deriving DecidableEq

namespace ImageOutcome

def isAccepted : ImageOutcome → Bool
  | .accept _ => true
  | .reject _ => false

def diagnostic : ImageOutcome → Option ImageDiagnosticCode
  | .reject code => some code
  | .accept _ => none

end ImageOutcome

/-- The characters with the property `White_Space`. -/
def isWhiteSpace (ch : Char) : Bool :=
  let codePoint := ch.toNat
  (9 ≤ codePoint && codePoint ≤ 13) || codePoint = 0x20 || codePoint = 0x85 ||
    codePoint = 0xA0 || codePoint = 0x1680 || (0x2000 ≤ codePoint && codePoint ≤ 0x200A) ||
    codePoint = 0x2028 || codePoint = 0x2029 || codePoint = 0x202F || codePoint = 0x205F ||
    codePoint = 0x3000

/-- `str::trim` -/
def trimChars (chars : List Char) : List Char :=
  ((chars.dropWhile isWhiteSpace).reverse.dropWhile isWhiteSpace).reverse

def contentTypeMatches (contentType : String) (declared : ImageMediaType) : Bool :=
  let first := contentType.toList.takeWhile (fun ch => ch ≠ ';')
  let essence := String.ofList ((trimChars first).map Char.toLower)
  essence = mediaTypeStr declared

theorem exists_trimChars (chars : List Char) :
    ∃ before after, chars = before ++ trimChars chars ++ after ∧
      ∀ ch ∈ before ++ after, isWhiteSpace ch = true := by
  refine ⟨chars.takeWhile isWhiteSpace,
    ((chars.dropWhile isWhiteSpace).reverse.takeWhile isWhiteSpace).reverse, ?_, ?_⟩
  · rw [trimChars, List.append_assoc, ← List.reverse_append, List.takeWhile_append_dropWhile,
      List.reverse_reverse, List.takeWhile_append_dropWhile]
  · intro ch member
    rcases List.mem_append.mp member with leading | trailing
    · exact List.mem_takeWhile_imp leading
    · exact List.mem_takeWhile_imp (List.mem_reverse.mp trailing)

theorem dropWhile_whiteSpace {name : List Char} (solid : ∀ ch ∈ name, isWhiteSpace ch = false) :
    name.dropWhile isWhiteSpace = name := by
  cases name with
  | nil => rfl
  | cons ch rest => simp [solid ch List.mem_cons_self]

theorem trimChars_append {before name after : List Char}
    (spaces : ∀ ch ∈ before ++ after, isWhiteSpace ch = true)
    (solid : ∀ ch ∈ name, isWhiteSpace ch = false) (present : name ≠ []) :
    trimChars (before ++ name ++ after) = name := by
  obtain ⟨leading, trailing⟩ := List.forall_mem_append.mp spaces
  obtain ⟨ch, rest, rfl⟩ := List.exists_cons_of_ne_nil present
  have front : (before ++ ch :: rest ++ after).dropWhile isWhiteSpace = ch :: rest ++ after := by
    rw [List.append_assoc, List.dropWhile_append_of_pos leading]
    simp [solid ch List.mem_cons_self]
  have back := @dropWhile_whiteSpace (ch :: rest).reverse fun ch member =>
    solid ch (List.mem_reverse.mp member)
  rw [trimChars, front, List.reverse_append,
    List.dropWhile_append_of_pos fun ch member => trailing ch (List.mem_reverse.mp member), back,
    List.reverse_reverse]

/-- The characters of a media type, whatever their case, are no white space and no semicolon. -/
theorem mediaType_char {declared : ImageMediaType} {ch : Char}
    (member : ch.toLower ∈ (mediaTypeStr declared).toList) :
    isWhiteSpace ch = false ∧ ch ≠ ';' := by
  have all : (mediaTypeStr declared).toList.all
      (fun lower => !isWhiteSpace lower && lower != ';') = true := by
    cases declared <;> decide
  have plain : ∀ lower ∈ (mediaTypeStr declared).toList,
      isWhiteSpace lower = false ∧ lower ≠ ';' := by
    simpa [List.all_eq_true] using all
  by_cases upper : 'A'.val ≤ ch.val ∧ ch.val ≤ 'Z'.val
  · have low : 65 ≤ ch.toNat := upper.1
    have high : ch.toNat ≤ 90 := upper.2
    refine ⟨?_, fun isSemicolon => ?_⟩
    · simp only [isWhiteSpace]
      grind
    · subst isSemicolon
      exact absurd low (by decide)
  · have same : ch.toLower = ch := dif_neg upper
    exact plain ch (same ▸ member)

/-- The texts that name a media type: in any case, between white space, and before the parameters
that a semicolon starts. -/
theorem contentTypeMatches_iff (contentType : String) (declared : ImageMediaType) :
    contentTypeMatches contentType declared = true ↔
      ∃ before name after parameters,
        contentType.toList = before ++ name ++ after ++ parameters ∧
        (∀ ch ∈ before ++ after, isWhiteSpace ch = true) ∧
        name.map Char.toLower = (mediaTypeStr declared).toList ∧
        ∀ ch ∈ parameters.head?, ch = ';' := by
  have isEssence : contentTypeMatches contentType declared = true ↔
      (trimChars (contentType.toList.takeWhile (· ≠ ';'))).map Char.toLower =
        (mediaTypeStr declared).toList := by
    simp only [contentTypeMatches, decide_eq_true_eq, ← String.toList_inj, String.toList_ofList]
  rw [isEssence]
  constructor
  · intro isName
    obtain ⟨before, after, first, spaces⟩ := exists_trimChars
      (contentType.toList.takeWhile (· ≠ ';'))
    refine ⟨before, _, after, contentType.toList.dropWhile (· ≠ ';'), ?_, spaces, isName, ?_⟩
    · rw [← first, List.takeWhile_append_dropWhile]
    · intro ch isHead
      have stops := List.head?_dropWhile_not (fun ch => decide (ch ≠ ';')) contentType.toList
      rw [Option.mem_def.mp isHead] at stops
      simpa using stops
  · rintro ⟨before, name, after, parameters, isText, spaces, isName, start⟩
    have solid : ∀ ch ∈ name, isWhiteSpace ch = false ∧ ch ≠ ';' := fun ch member =>
      mediaType_char (isName ▸ List.mem_map_of_mem member)
    have present : name ≠ [] := by
      rintro rfl
      cases declared <;> exact absurd isName (by decide)
    -- so the first part of the text ends where its parameters start
    have noSemicolon : ∀ ch ∈ before ++ name ++ after, decide (ch ≠ ';') = true := by
      have space : ∀ ch, isWhiteSpace ch = true → ch ≠ ';' := by
        rintro _ isSpace rfl
        exact absurd isSpace (by decide)
      simp only [List.forall_mem_append, decide_eq_true_eq] at spaces ⊢
      exact ⟨⟨fun ch member => space ch (spaces.1 ch member), fun ch member => (solid ch member).2⟩,
        fun ch member => space ch (spaces.2 ch member)⟩
    have first : contentType.toList.takeWhile (· ≠ ';') = before ++ name ++ after := by
      rw [isText, List.takeWhile_append_of_pos noSemicolon]
      cases parameters with
      | nil => simp
      | cons ch rest => simp [start ch rfl]
    rw [first, trimChars_append spaces (fun ch member => (solid ch member).1) present, isName]

section Checks

variable {I : ImageCore}

def runChecks (image : ImageRef I) (body : Bytes) (contentType : String)
    (budget : ImageBudget) : DecoderProgram (ImageOutcome × ImageBudget) :=
  if contentTypeMatches contentType image.mediaType = false then
    pure (.reject .wImageContentType, budget)
  else if body.length > maxImageBytes then
    pure (.reject .wImageOversize, budget)
  else if I.sha256Image body ≠ image.sha256 then
    pure (.reject .wImageHashMismatch, budget)
  else do
    match ← decode body image.mediaType with
    | .error .decodeError => pure (.reject .wImageDecodeFailed, budget)
    | .ok decoded =>
        if decoded.animated then
          pure (.reject .wImageDecodeFailed, budget)
        else if decoded.width ≠ image.width ∨ decoded.height ≠ image.height then
          pure (.reject .wImageDimensions, budget)
        else
          let (charged, budget) := budget.tryCharge decoded.width decoded.height
          if charged = false then pure (.reject .wImageBudget, budget)
          else pure (.accept decoded, budget)

def verifyImage (image : ImageRef I) (body : Bytes) (contentType : String)
    (budget : ImageBudget) (noRetry : NoRetrySet) :
    DecoderProgram (ImageOutcome × ImageBudget × NoRetrySet) :=
  if noRetry.contains image then
    pure (.reject .wImageDecodeFailed, budget, noRetry)
  else do
    let (outcome, budget) ← runChecks image body contentType budget
    let noRetry := if outcome.isAccepted then noRetry else noRetry.record image
    pure (outcome, budget, noRetry)

def fetchFailed (image : ImageRef I) (noRetry : NoRetrySet) : ImageOutcome × NoRetrySet :=
  (.reject .wImageFetchFailed, noRetry.record image)

/-! ### One call of the shell -/

/-- The calls that the shell makes for an image, each with the decoder that it
hands over. -/
inductive ImageCall (I : ImageCore)
  | verifyImage (image : ImageRef I) (body : Bytes) (contentType : String) (decoder : Decoder)
  | fetchFailed (image : ImageRef I)

def ImageCall.image : ImageCall I → ImageRef I
  | .verifyImage image _ _ _ => image
  | .fetchFailed image => image

/-- The budget and the set that calls share. -/
structure ImageState where
  budget : ImageBudget
  noRetry : NoRetrySet

def ImageState.new : ImageState :=
  ⟨.new, .new⟩

/-- A call, what it was handed, what it returned and left, and the calls that it
made to the decoder. -/
structure ImageVisit (I : ImageCore) where
  call : ImageCall I
  before : ImageState
  outcome : ImageOutcome
  after : ImageState
  decodes : List DecodeCall

/-- A program over the decoder returns a value. -/
def returned {α : Type} : Except Empty α → α
  | .ok value => value
  | .error impossible => nomatch impossible

def ImageCall.visit (call : ImageCall I) (before : ImageState) : ImageVisit I :=
  match call with
  | .verifyImage image body contentType decoder =>
      let ran := (EntangledClient.verifyImage image body contentType before.budget
        before.noRetry).run decoder.handler []
      let (outcome, budget, noRetry) := returned ran.1
      { call, before, outcome, after := ⟨budget, noRetry⟩, decodes := ran.2 }
  | .fetchFailed image =>
      let (outcome, noRetry) := EntangledClient.fetchFailed image before.noRetry
      { call, before, outcome, after := ⟨before.budget, noRetry⟩, decodes := [] }

/-! ### What the checks do -/

namespace ImageRef

variable (image : ImageRef I)

/-- The number of declared pixels. -/
def pixels : Nat :=
  image.width.toNat * image.height.toNat

/-- What is checked before the decoder sees the body. -/
structure Authentic (body : Bytes) (contentType : String) : Prop where
  mediaType : contentTypeMatches contentType image.mediaType = true
  size : body.length ≤ maxImageBytes
  hash : I.sha256Image body = image.sha256

/-- A still image of the declared dimensions. -/
structure Matches (decoded : Decoded) : Prop where
  still : decoded.animated = false
  width : decoded.width = image.width
  height : decoded.height = image.height

/-- The image would be accepted if the budget of the document were not counted. -/
def Verifies (body : Bytes) (contentType : String) (decoder : Decoder) : Prop :=
  image.Authentic body contentType ∧
    ∃ decoded, decoder body image.mediaType = .ok decoded ∧ image.Matches decoded

end ImageRef

/-- The pixels still fit in the budget. -/
def ImageBudget.Fits (budget : ImageBudget) (pixels : Nat) : Prop :=
  budget.used.toNat + pixels ≤ maxDecodedPixels.toNat

instance (budget : ImageBudget) (pixels : Nat) : Decidable (budget.Fits pixels) :=
  inferInstanceAs (Decidable (_ ≤ _))

namespace ImageBudget

/-- No two dimensions overflow their product. -/
theorem toNat_pixels (width height : UInt32) :
    (width.toUInt64 * height.toUInt64).toNat = width.toNat * height.toNat := by
  have small : width.toNat * height.toNat < 2 ^ 64 := by
    have product := Nat.mul_lt_mul'' width.toNat_lt height.toNat_lt
    omega
  rw [UInt64.toNat_mul, UInt32.toNat_toUInt64, UInt32.toNat_toUInt64, Nat.mod_eq_of_lt small]

theorem checkedAdd_eq_some {first second : UInt64}
    (small : first.toNat + second.toNat < 2 ^ 64) :
    ∃ total, checkedAdd first second = some total ∧
      total.toNat = first.toNat + second.toNat := by
  refine ⟨first + second, if_pos small, ?_⟩
  rw [UInt64.toNat_add, Nat.mod_eq_of_lt small]

theorem tryCharge_of_fits {budget : ImageBudget} {width height : UInt32}
    (fits : budget.Fits (width.toNat * height.toNat)) :
    ∃ after, budget.tryCharge width height = (true, after) ∧
      after.used.toNat = budget.used.toNat + width.toNat * height.toNat := by
  have pixels := toNat_pixels width height
  have bound : budget.used.toNat + width.toNat * height.toNat ≤ 16777216 := fits
  have small : budget.used.toNat + (width.toUInt64 * height.toUInt64).toNat < 2 ^ 64 := by
    omega
  obtain ⟨total, added, value⟩ := checkedAdd_eq_some small
  have within : total ≤ maxDecodedPixels := by
    rw [UInt64.le_iff_toNat_le, value, pixels]
    exact fits
  refine ⟨⟨total⟩, ?_, by rw [value, pixels]⟩
  simp only [tryCharge, added, if_pos within]

theorem tryCharge_of_not_fits {budget : ImageBudget} {width height : UInt32}
    (exceeds : ¬ budget.Fits (width.toNat * height.toNat)) :
    budget.tryCharge width height = (false, budget) := by
  have pixels := toNat_pixels width height
  by_cases small : budget.used.toNat + (width.toUInt64 * height.toUInt64).toNat < 2 ^ 64
  · obtain ⟨total, added, value⟩ := checkedAdd_eq_some small
    have beyond : ¬ total ≤ maxDecodedPixels := by
      rw [UInt64.le_iff_toNat_le, value, pixels]
      exact exceeds
    simp only [tryCharge, added, if_neg beyond]
  · have none : checkedAdd budget.used (width.toUInt64 * height.toUInt64) = none := if_neg small
    simp only [tryCharge, none]

end ImageBudget

/-- The ways in which the checks can end. -/
inductive Checked (image : ImageRef I) (body : Bytes) (contentType : String)
    (decoder : Decoder) (budget : ImageBudget) :
    ImageOutcome → ImageBudget → List DecodeCall → Prop
  | unauthentic {code : ImageDiagnosticCode} (fails : ¬ image.Authentic body contentType)
      (other : code ≠ .wImageBudget) :
      Checked image body contentType decoder budget (.reject code) budget []
  | undecoded {code : ImageDiagnosticCode} (authentic : image.Authentic body contentType)
      (fails : ∀ decoded, decoder body image.mediaType = .ok decoded → ¬ image.Matches decoded)
      (other : code ≠ .wImageBudget) :
      Checked image body contentType decoder budget (.reject code) budget
        [⟨body, image.mediaType⟩]
  | refused (authentic : image.Authentic body contentType) {decoded : Decoded}
      (decodes : decoder body image.mediaType = .ok decoded)
      (isImage : image.Matches decoded) (exceeds : ¬ budget.Fits image.pixels) :
      Checked image body contentType decoder budget (.reject .wImageBudget) budget
        [⟨body, image.mediaType⟩]
  | accepted (authentic : image.Authentic body contentType) {decoded : Decoded}
      (decodes : decoder body image.mediaType = .ok decoded)
      (isImage : image.Matches decoded) (fits : budget.Fits image.pixels)
      {after : ImageBudget} (charged : after.used.toNat = budget.used.toNat + image.pixels) :
      Checked image body contentType decoder budget (.accept decoded) after
        [⟨body, image.mediaType⟩]

/-- A body that is not authentic is rejected without decoding it. -/
theorem runChecks_unauthentic {image : ImageRef I} {body : Bytes} {contentType : String}
    (fails : ¬ image.Authentic body contentType) (budget : ImageBudget) :
    ∃ code, runChecks image body contentType budget = pure (.reject code, budget) ∧
      code ≠ .wImageBudget := by
  unfold runChecks
  by_cases mediaType : contentTypeMatches contentType image.mediaType = false
  · exact ⟨_, if_pos mediaType, by decide⟩
  by_cases size : body.length > maxImageBytes
  · exact ⟨_, by rw [if_neg mediaType, if_pos size], by decide⟩
  by_cases hash : I.sha256Image body ≠ image.sha256
  · exact ⟨_, by rw [if_neg mediaType, if_neg size, if_pos hash], by decide⟩
  · exact absurd ⟨by simpa using mediaType, by omega, not_not.mp hash⟩ fails

/-- Every way in which `runChecks` can end is one of those listed. -/
theorem runChecks_checked (image : ImageRef I) (body : Bytes) (contentType : String)
    (decoder : Decoder) (budget : ImageBudget) :
    ∃ outcome after calls,
      (runChecks image body contentType budget).run decoder.handler [] =
        (.ok (outcome, after), calls) ∧
      Checked image body contentType decoder budget outcome after calls := by
  by_cases authentic : image.Authentic body contentType
  case neg =>
    obtain ⟨code, rejected, other⟩ := runChecks_unauthentic authentic budget
    exact ⟨_, _, _, by rw [rejected, Program.run_pure], .unauthentic authentic other⟩
  have mediaType : ¬ contentTypeMatches contentType image.mediaType = false := by
    simp [authentic.mediaType]
  have size : ¬ body.length > maxImageBytes := Nat.not_lt.mpr authentic.size
  have hash : ¬ I.sha256Image body ≠ image.sha256 := not_not.mpr authentic.hash
  rw [runChecks, if_neg mediaType, if_neg size, if_neg hash]
  -- From here on the decoder has been called once, whatever it returned.
  have decoded : (decode body image.mediaType).run decoder.handler [] =
      (.ok (decoder body image.mediaType), [⟨body, image.mediaType⟩]) := rfl
  rw [Program.run_bind_ok decoder.handler decoded]
  cases result : decoder body image.mediaType with
  | error error =>
      have fails : ∀ decoded, decoder body image.mediaType = .ok decoded →
          ¬ image.Matches decoded := by simp [result]
      exact ⟨_, _, _, rfl, .undecoded authentic fails (by decide)⟩
  | ok decoded =>
      have wrong (differs : ¬ image.Matches decoded) :
          ∀ other, decoder body image.mediaType = .ok other → ¬ image.Matches other := by
        intro other found
        obtain rfl : decoded = other := by simpa [result] using found
        exact differs
      dsimp only
      by_cases animated : decoded.animated = true
      · have fails := wrong fun isImage => by simp [isImage.still] at animated
        exact ⟨_, _, _, by rw [if_pos animated]; rfl, .undecoded authentic fails (by decide)⟩
      by_cases dimensions : decoded.width ≠ image.width ∨ decoded.height ≠ image.height
      · have fails := wrong fun isImage => by simp [isImage.width, isImage.height] at dimensions
        exact ⟨_, _, _, by rw [if_neg animated, if_pos dimensions]; rfl,
          .undecoded authentic fails (by decide)⟩
      have isImage : image.Matches decoded := by
        rw [not_or, not_not, not_not] at dimensions
        exact ⟨by simpa using animated, dimensions.1, dimensions.2⟩
      rw [if_neg animated, if_neg dimensions, isImage.width, isImage.height]
      by_cases fits : budget.Fits image.pixels
      · obtain ⟨after, charged, used⟩ := ImageBudget.tryCharge_of_fits fits
        rw [charged]
        exact ⟨_, _, _, rfl, .accepted authentic result isImage fits used⟩
      · rw [ImageBudget.tryCharge_of_not_fits fits]
        exact ⟨_, _, _, rfl, .refused authentic result isImage fits⟩

/-! ### What a call does -/

/-- A failed triple is rejected at once. -/
theorem visit_known (before : ImageState) {image : ImageRef I}
    (known : before.noRetry.contains image = true) (body : Bytes) (contentType : String)
    (decoder : Decoder) :
    (ImageCall.verifyImage image body contentType decoder).visit before =
      { call := .verifyImage image body contentType decoder, before,
        outcome := .reject .wImageDecodeFailed, after := before, decodes := [] } := by
  simp only [ImageCall.visit, EntangledClient.verifyImage, if_pos known, Program.run_pure,
    returned]

/-- Any other image is checked, and recorded if it fails. -/
theorem visit_unknown (before : ImageState) {image : ImageRef I}
    (unknown : ¬ before.noRetry.contains image = true) {body : Bytes} {contentType : String}
    {decoder : Decoder} {outcome : ImageOutcome} {after : ImageBudget}
    {calls : List DecodeCall}
    (checked : (runChecks image body contentType before.budget).run decoder.handler [] =
      (.ok (outcome, after), calls)) :
    (ImageCall.verifyImage image body contentType decoder).visit before =
      { call := .verifyImage image body contentType decoder, before, outcome,
        after := ⟨after, if outcome.isAccepted then before.noRetry
          else before.noRetry.record image⟩,
        decodes := calls } := by
  simp only [ImageCall.visit, EntangledClient.verifyImage, if_neg unknown]
  rw [Program.run_bind_ok decoder.handler checked, Program.run_pure]
  rfl

/-- The ways in which a call can end. -/
inductive ImageVisited : ImageVisit I → Prop
  | known {image : ImageRef I} {body : Bytes} {contentType : String} {decoder : Decoder}
      {before : ImageState} (known : before.noRetry.contains image = true) :
      ImageVisited
        { call := .verifyImage image body contentType decoder, before,
          outcome := .reject .wImageDecodeFailed, after := before, decodes := [] }
  | checked {image : ImageRef I} {body : Bytes} {contentType : String} {decoder : Decoder}
      {before : ImageState} (unknown : ¬ before.noRetry.contains image = true)
      {outcome : ImageOutcome} {after : ImageBudget} {calls : List DecodeCall}
      (checked : Checked image body contentType decoder before.budget outcome after calls) :
      ImageVisited
        { call := .verifyImage image body contentType decoder, before, outcome,
          after := ⟨after, if outcome.isAccepted then before.noRetry
            else before.noRetry.record image⟩,
          decodes := calls }
  | fetchFailed {image : ImageRef I} {before : ImageState} :
      ImageVisited
        { call := .fetchFailed image, before, outcome := .reject .wImageFetchFailed,
          after := ⟨before.budget, before.noRetry.record image⟩, decodes := [] }

theorem visit_visited (call : ImageCall I) (before : ImageState) :
    ImageVisited (call.visit before) := by
  cases call with
  | verifyImage image body contentType decoder =>
      by_cases known : before.noRetry.contains image = true
      · rw [visit_known before known]
        exact .known known
      · obtain ⟨outcome, after, calls, ran, checked⟩ :=
          runChecks_checked image body contentType decoder before.budget
        rw [visit_unknown before known ran]
        exact .checked known checked
  | fetchFailed image => exact .fetchFailed

@[simp]
theorem visit_call (call : ImageCall I) (before : ImageState) :
    (call.visit before).call = call := by
  cases call <;> rfl

@[simp]
theorem visit_before (call : ImageCall I) (before : ImageState) :
    (call.visit before).before = before := by
  cases call <;> rfl

namespace ImageVisited

variable {visit : ImageVisit I}

theorem budget_of_rejected (visited : ImageVisited visit)
    (rejected : visit.outcome.isAccepted = false) :
    visit.after.budget = visit.before.budget := by
  cases visited with
  | known known => rfl
  | checked unknown checked =>
      cases checked with
      | unauthentic fails other => rfl
      | undecoded authentic fails other => rfl
      | refused authentic decodes isImage exceeds => rfl
      | accepted authentic decodes isImage fits charged => cases rejected
  | fetchFailed => rfl

/-- What an accepted image is, and what it costs. -/
theorem of_accepted (visited : ImageVisited visit) {decoded : Decoded}
    (accepted : visit.outcome = .accept decoded) :
    visit.call.image.Matches decoded ∧ visit.before.budget.Fits visit.call.image.pixels ∧
      visit.after.budget.used.toNat =
        visit.before.budget.used.toNat + visit.call.image.pixels := by
  cases visited with
  | known known => cases accepted
  | checked unknown checked =>
      cases checked with
      | unauthentic fails other => cases accepted
      | undecoded authentic fails other => cases accepted
      | refused authentic decodes isImage exceeds => cases accepted
      | accepted authentic decodes isImage fits charged =>
          cases accepted
          exact ⟨isImage, fits, charged⟩
  | fetchFailed => cases accepted

/-- What the decoder may be called on. -/
theorem of_decode (visited : ImageVisited visit) {decode : DecodeCall}
    (made : decode ∈ visit.decodes) :
    ∃ contentType decoder,
      visit.call = .verifyImage visit.call.image decode.bytes contentType decoder ∧
      visit.call.image.Authentic decode.bytes contentType ∧
      decode.mediaType = visit.call.image.mediaType ∧
      ¬ visit.before.noRetry.contains visit.call.image = true := by
  cases visited with
  | known known => cases made
  | fetchFailed => cases made
  | @checked image body contentType decoder before unknown outcome after calls checked =>
      cases checked with
      | unauthentic fails other => cases made
      | undecoded authentic fails other =>
          obtain rfl := List.mem_singleton.mp made
          exact ⟨contentType, decoder, rfl, authentic, rfl, unknown⟩
      | refused authentic decodes isImage exceeds =>
          obtain rfl := List.mem_singleton.mp made
          exact ⟨contentType, decoder, rfl, authentic, rfl, unknown⟩
      | accepted authentic decodes isImage fits charged =>
          obtain rfl := List.mem_singleton.mp made
          exact ⟨contentType, decoder, rfl, authentic, rfl, unknown⟩

end ImageVisited

/-! ### What is recorded -/

namespace NoRetrySet

theorem contains_record {noRetry : NoRetrySet} {image other : ImageRef I} :
    (noRetry.record image).contains other = true ↔
      key other = key image ∨ noRetry.contains other = true := by
  simp [contains, record]

end NoRetrySet

/-- A call records its image exactly if it does not accept it. -/
theorem ImageVisited.contains_after {visit : ImageVisit I} (visited : ImageVisited visit)
    (other : ImageRef I) :
    visit.after.noRetry.contains other = true ↔
      visit.before.noRetry.contains other = true ∨
        (visit.outcome.isAccepted = false ∧
          NoRetrySet.key other = NoRetrySet.key visit.call.image) := by
  cases visited with
  | @known image body contentType decoder before known =>
      constructor
      · intro contained
        exact .inl contained
      · rintro (contained | ⟨_, sameKey⟩)
        · exact contained
        · have member : NoRetrySet.key image ∈ before.noRetry.failed := by
            simpa [NoRetrySet.contains] using known
          have equal : NoRetrySet.key other = NoRetrySet.key image := sameKey
          simp [NoRetrySet.contains, equal, member]
  | @checked image body contentType decoder before unknown outcome after calls checked =>
      cases accepted : outcome.isAccepted with
      | true => simp
      | false => simp [NoRetrySet.contains_record, ImageCall.image, or_comm]
  | fetchFailed =>
      simp [ImageOutcome.isAccepted, NoRetrySet.contains_record, ImageCall.image, or_comm]

end Checks

end EntangledClient
