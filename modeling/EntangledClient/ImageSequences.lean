import EntangledClient.ImagePolicy
import EntangledClient.LowerHex
import Mathlib.Algebra.BigOperators.Group.List.Basic

/-!
# Sequences of image calls

The calls of a document share its pixel budget, and the calls of a session share
its set of failed images.  A sequence may go on with another budget, when a new
document starts, or with another set.
-/

namespace EntangledClient

variable {I : ImageCore}

/-- One call of a sequence, and what it is handed in place of what the calls
before it left. -/
structure Turn (I : ImageCore) where
  call : ImageCall I
  budget : Option ImageBudget
  noRetry : Option NoRetrySet

namespace Turn

/-- A call that shares both the budget and the set. -/
def shared (call : ImageCall I) : Turn I :=
  ⟨call, none, none⟩

/-- A call on the shared budget; a new session brings its own set. -/
def onBudget (call : ImageCall I × Option NoRetrySet) : Turn I :=
  ⟨call.1, none, call.2⟩

/-- A call on the shared set; a new document brings its own budget. -/
def onSet (call : ImageCall I × Option ImageBudget) : Turn I :=
  ⟨call.1, call.2, none⟩

def handed (turn : Turn I) (state : ImageState) : ImageState :=
  ⟨turn.budget.getD state.budget, turn.noRetry.getD state.noRetry⟩

end Turn

/-- What the calls of a sequence do, one after the other. -/
def imageVisits : ImageState → List (Turn I) → List (ImageVisit I)
  | _, [] => []
  | state, turn :: turns =>
      let visit := turn.call.visit (turn.handed state)
      visit :: imageVisits visit.after turns

/-- What a sequence leaves of the budget and the set. -/
def stateAfter (state : ImageState) (turns : List (Turn I)) : ImageState :=
  turns.foldl (fun state turn => (turn.call.visit (turn.handed state)).after) state

theorem stateAfter_cons (state : ImageState) (turn : Turn I) (turns : List (Turn I)) :
    stateAfter state (turn :: turns) =
      stateAfter (turn.call.visit (turn.handed state)).after turns :=
  rfl

/-! ### The budget of a document -/

/-- The pixels of an accepted image. -/
def ImageVisit.acceptedPixels (visit : ImageVisit I) : Nat :=
  match visit.outcome with
  | .accept decoded => decoded.width.toNat * decoded.height.toNat
  | .reject _ => 0

/-- A call adds what it accepts to the budget, and nothing else. -/
theorem ImageVisited.used_after {visit : ImageVisit I} (visited : ImageVisited visit) :
    visit.after.budget.used.toNat =
      visit.before.budget.used.toNat + visit.acceptedPixels := by
  cases outcome : visit.outcome with
  | accept decoded =>
      obtain ⟨isImage, _, charged⟩ := visited.of_accepted outcome
      rw [charged, ImageRef.pixels, ← isImage.width, ← isImage.height]
      simp only [ImageVisit.acceptedPixels, outcome]
  | reject code =>
      have rejected : visit.outcome.isAccepted = false := by rw [outcome]; rfl
      rw [visited.budget_of_rejected rejected, ImageVisit.acceptedPixels, outcome, Nat.add_zero]

/-- No call charges the budget beyond its limit. -/
theorem ImageVisited.used_le {visit : ImageVisit I} (visited : ImageVisited visit)
    (bounded : visit.before.budget.used.toNat ≤ maxDecodedPixels.toNat) :
    visit.after.budget.used.toNat ≤ maxDecodedPixels.toNat := by
  cases outcome : visit.outcome with
  | accept decoded =>
      obtain ⟨_, fits, charged⟩ := visited.of_accepted outcome
      rw [charged]
      exact fits
  | reject code =>
      have rejected : visit.outcome.isAccepted = false := by rw [outcome]; rfl
      rw [visited.budget_of_rejected rejected]
      exact bounded

/-- Over calls on one budget, it counts the pixels of the accepted images. -/
theorem used_stateAfter (turns : List (Turn I)) (oneBudget : ∀ turn ∈ turns, turn.budget = none)
    (state : ImageState) :
    (stateAfter state turns).budget.used.toNat =
      state.budget.used.toNat + ((imageVisits state turns).map ImageVisit.acceptedPixels).sum := by
  induction turns generalizing state with
  | nil => rfl
  | cons turn turns ih =>
      have same : (turn.handed state).budget = state.budget := by
        rw [Turn.handed, oneBudget turn (List.mem_cons_self ..), Option.getD_none]
      have first := (visit_visited turn.call (turn.handed state)).used_after
      have rest := ih (fun other member => oneBudget other (List.mem_cons_of_mem _ member))
        (turn.call.visit (turn.handed state)).after
      rw [visit_before, same] at first
      rw [stateAfter_cons, rest, first, imageVisits, List.map_cons, List.sum_cons]
      omega

theorem used_stateAfter_le (turns : List (Turn I))
    (oneBudget : ∀ turn ∈ turns, turn.budget = none) (state : ImageState)
    (bounded : state.budget.used.toNat ≤ maxDecodedPixels.toNat) :
    (stateAfter state turns).budget.used.toNat ≤ maxDecodedPixels.toNat := by
  induction turns generalizing state with
  | nil => exact bounded
  | cons turn turns ih =>
      have same : (turn.handed state).budget = state.budget := by
        rw [Turn.handed, oneBudget turn (List.mem_cons_self ..), Option.getD_none]
      have first := (visit_visited turn.call (turn.handed state)).used_le
        (by rw [visit_before, same]; exact bounded)
      exact ih (fun other member => oneBudget other (List.mem_cons_of_mem _ member)) _ first

/-! ### The failed images of a session -/

/-- Two images with the same path, hash and media type. -/
def ImageRef.SameTriple (image other : ImageRef I) : Prop :=
  image.src = other.src ∧ image.sha256 = other.sha256 ∧ image.mediaType = other.mediaType

theorem ImageRef.SameTriple.key_eq {image other : ImageRef I} (same : image.SameTriple other) :
    NoRetrySet.key image = NoRetrySet.key other := by
  obtain ⟨src, sha256, mediaType⟩ := same
  rw [NoRetrySet.key, NoRetrySet.key, src, sha256, mediaType]

/-- Some call did not accept an image with this triple. -/
def Failed (made : List (ImageVisit I)) (image : ImageRef I) : Prop :=
  ∃ visit ∈ made, visit.outcome.isAccepted = false ∧ image.SameTriple visit.call.image

/-- Over calls on one set, it holds the keys of the images that were not accepted. -/
theorem contains_stateAfter (turns : List (Turn I)) (oneSet : ∀ turn ∈ turns, turn.noRetry = none)
    (state : ImageState) (image : ImageRef I) :
    (stateAfter state turns).noRetry.contains image = true ↔
      state.noRetry.contains image = true ∨ ∃ visit ∈ imageVisits state turns,
        visit.outcome.isAccepted = false ∧
          NoRetrySet.key image = NoRetrySet.key visit.call.image := by
  induction turns generalizing state with
  | nil => simp [stateAfter, imageVisits]
  | cons turn turns ih =>
      have same : (turn.handed state).noRetry = state.noRetry := by
        rw [Turn.handed, oneSet turn (List.mem_cons_self ..), Option.getD_none]
      have first := (visit_visited turn.call (turn.handed state)).contains_after image
      have rest := ih (fun other member => oneSet other (List.mem_cons_of_mem _ member))
        (turn.call.visit (turn.handed state)).after
      rw [visit_before, same] at first
      rw [stateAfter_cons, rest, first, imageVisits, or_assoc]
      simp only [List.mem_cons, exists_eq_or_imp]

theorem oneBudget_shared {calls : List (ImageCall I)} :
    ∀ turn ∈ calls.map Turn.shared, turn.budget = none := by
  simp [Turn.shared]

theorem oneSet_shared {calls : List (ImageCall I)} :
    ∀ turn ∈ calls.map Turn.shared, turn.noRetry = none := by
  simp [Turn.shared]

/-! ### A whole document -/

/-- A call to the decoder that the policy permits after the calls `made`. -/
structure DecodePermitted (made : List (ImageVisit I)) (call : ImageCall I) (decode : DecodeCall) :
    Prop where
  isCall : ∃ contentType decoder,
    call = .verifyImage call.image decode.bytes contentType decoder ∧
      contentTypeMatches contentType call.image.mediaType = true
  declared : decode.mediaType = call.image.mediaType
  size : decode.bytes.length ≤ 2 * 1024 * 1024
  hash : I.sha256Image decode.bytes = call.image.sha256
  fresh : ¬ Failed made call.image

/-- What a call on the state of a document does to it. -/
structure VisitSafe (made : List (ImageVisit I)) (state : ImageState) (call : ImageCall I) :
    Prop where
  rejected : (call.visit state).outcome.isAccepted = false →
    (call.visit state).after.budget = state.budget
  decodes : ∀ decode ∈ (call.visit state).decodes, DecodePermitted made call decode
  accepted : ∀ decoded, (call.visit state).outcome = .accept decoded →
    decoded.animated = false ∧ decoded.width = call.image.width ∧
      decoded.height = call.image.height

/-- The arithmetic of a charge does not leave 64 bits. -/
structure NoOverflow (budget : ImageBudget) (width height : UInt32) : Prop where
  product : (width.toUInt64 * height.toUInt64).toNat = width.toNat * height.toNat
  sum : ∃ total, ImageBudget.checkedAdd budget.used (width.toUInt64 * height.toUInt64) =
    some total ∧ total.toNat = budget.used.toNat + width.toNat * height.toNat

theorem noOverflow {budget : ImageBudget} (bounded : budget.used.toNat ≤ maxDecodedPixels.toNat)
    (width height : UInt32) : NoOverflow budget width height where
  product := ImageBudget.toNat_pixels width height
  sum := by
    have product := ImageBudget.toNat_pixels width height
    have small : budget.used.toNat + width.toNat * height.toNat < 2 ^ 64 := by
      have widthBound := width.toNat_lt
      have heightBound := height.toNat_lt
      have pixels : width.toNat * height.toNat ≤ (2 ^ 32 - 1) * (2 ^ 32 - 1) :=
        Nat.mul_le_mul (by omega) (by omega)
      have limit : maxDecodedPixels.toNat = 16777216 := rfl
      omega
    rw [← product] at small ⊢
    exact ImageBudget.checkedAdd_eq_some small

/-- A document of any calls keeps its budget, and decodes nothing it should not. -/
theorem document_safe (calls : List (ImageCall I)) :
    let state := stateAfter .new (calls.map Turn.shared)
    let made := imageVisits .new (calls.map Turn.shared)
    state.budget.used.toNat = (made.map ImageVisit.acceptedPixels).sum ∧
      state.budget.used.toNat ≤ 16777216 ∧
      (∀ width height, NoOverflow state.budget width height) ∧
      ∀ call, VisitSafe made state call := by
  have used := used_stateAfter (calls.map Turn.shared) oneBudget_shared .new
  have bounded := used_stateAfter_le (calls.map Turn.shared) oneBudget_shared .new
    (Nat.zero_le _)
  refine ⟨by rw [used]; exact Nat.zero_add _, bounded, noOverflow bounded, ?_⟩
  intro call
  have visited := visit_visited call (stateAfter .new (calls.map Turn.shared))
  constructor
  case rejected =>
    intro rejected
    rw [visited.budget_of_rejected rejected, visit_before]
  case decodes =>
    intro decode made
    obtain ⟨contentType, decoder, isCall, authentic, declared, unknown⟩ := visited.of_decode made
    rw [visit_call] at isCall authentic declared unknown
    rw [visit_before] at unknown
    refine ⟨⟨contentType, decoder, isCall, authentic.mediaType⟩, declared, authentic.size,
      authentic.hash, ?_⟩
    rintro ⟨visit, earlier, rejected, same⟩
    exact unknown ((contains_stateAfter _ oneSet_shared .new call.image).mpr
      (.inr ⟨visit, earlier, rejected, same.key_eq⟩))
  case accepted =>
    intro decoded accepted
    obtain ⟨isImage, _, _⟩ := visited.of_accepted accepted
    rw [visit_call] at isImage
    exact ⟨isImage.still, isImage.width, isImage.height⟩

/-! ### After the budget refused an image -/

/-- A call that verifies an image which is not known to have failed and which
passes every check but that of the budget. -/
def Eligible (noRetry : NoRetrySet) : ImageCall I → Prop
  | .verifyImage image body contentType decoder =>
      ¬ noRetry.contains image = true ∧ image.Verifies body contentType decoder
  | .fetchFailed _ => False

/-- An eligible image is accepted if it fits, and refused by the budget if not;
no other image is either. -/
theorem ImageVisited.eligible_iff {visit : ImageVisit I} (visited : ImageVisited visit) :
    (visit.outcome.isAccepted = true ↔
      Eligible visit.before.noRetry visit.call ∧
        visit.before.budget.Fits visit.call.image.pixels) ∧
    (visit.outcome = .reject .wImageBudget ↔
      Eligible visit.before.noRetry visit.call ∧
        ¬ visit.before.budget.Fits visit.call.image.pixels) := by
  cases visited with
  | known known => simp [Eligible, known, ImageOutcome.isAccepted]
  | fetchFailed => simp [Eligible, ImageOutcome.isAccepted]
  | checked unknown checked =>
      cases checked with
      | unauthentic fails other =>
          simp [Eligible, ImageRef.Verifies, fails, other, ImageOutcome.isAccepted]
      | undecoded authentic fails other =>
          have never := not_exists.mpr fun decoded => not_and.mpr (fails decoded)
          simp [Eligible, ImageRef.Verifies, never, other, ImageOutcome.isAccepted]
      | refused authentic decodes isImage exceeds =>
          have verifies : ImageRef.Verifies _ _ _ _ := ⟨authentic, _, decodes, isImage⟩
          simp [Eligible, unknown, verifies, exceeds, ImageOutcome.isAccepted,
            ImageCall.image]
      | accepted authentic decodes isImage fits charged =>
          have verifies : ImageRef.Verifies _ _ _ _ := ⟨authentic, _, decodes, isImage⟩
          simp [Eligible, unknown, verifies, fits, ImageOutcome.isAccepted,
            ImageCall.image]

/-- Once the budget has refused an image, no later image is accepted. -/
def RefusalFinal (made : List (ImageVisit I)) : Prop :=
  made.Pairwise fun earlier later =>
    earlier.outcome = .reject .wImageBudget → later.outcome.isAccepted = false

/-- After an eligible image that does not fit in the budget, no eligible image
comes that is small enough for what was left then. -/
def NoneFitsLater (made : List (ImageVisit I)) : Prop :=
  made.Pairwise fun earlier later =>
    Eligible earlier.before.noRetry earlier.call →
      ¬ earlier.before.budget.Fits earlier.call.image.pixels →
      Eligible later.before.noRetry later.call →
      ¬ earlier.before.budget.Fits later.call.image.pixels

theorem visits_onBudget_cons (state : ImageState) (call : ImageCall I × Option NoRetrySet)
    (calls : List (ImageCall I × Option NoRetrySet)) :
    ∃ visit : ImageVisit I, ImageVisited visit ∧ visit.before.budget = state.budget ∧
      imageVisits state ((call :: calls).map Turn.onBudget) =
        visit :: imageVisits visit.after (calls.map Turn.onBudget) :=
  ⟨call.1.visit ((Turn.onBudget call).handed state), visit_visited _ _, by rw [visit_before]; rfl,
    rfl⟩

/-- As long as no image is accepted, the budget is the one at the start. -/
theorem none_accepted_iff (calls : List (ImageCall I × Option NoRetrySet)) (state : ImageState) :
    (∀ visit ∈ imageVisits state (calls.map Turn.onBudget), visit.outcome.isAccepted = false) ↔
      ∀ visit ∈ imageVisits state (calls.map Turn.onBudget),
        Eligible visit.before.noRetry visit.call →
          ¬ state.budget.Fits visit.call.image.pixels := by
  induction calls generalizing state with
  | nil => simp [imageVisits]
  | cons call calls ih =>
      obtain ⟨visit, visited, sameBudget, first⟩ := visits_onBudget_cons state call calls
      have accepts := visited.eligible_iff.1
      rw [first, List.forall_mem_cons, List.forall_mem_cons, ← sameBudget]
      cases accepted : visit.outcome.isAccepted with
      | true =>
          obtain ⟨eligible, fits⟩ := accepts.mp accepted
          constructor
          · intro rejected
            cases rejected.1
          · intro noneFits
            exact absurd fits (noneFits.1 eligible)
      | false =>
          have rest := ih visit.after
          rw [visited.budget_of_rejected accepted] at rest
          rw [rest]
          refine and_congr_left fun _ => ⟨fun _ eligible fits => ?_, fun _ => rfl⟩
          rw [accepts.mpr ⟨eligible, fits⟩] at accepted
          cases accepted

/-- The refusal is final exactly if no eligible image that still fits comes after it. -/
theorem refusalFinal_iff (calls : List (ImageCall I × Option NoRetrySet)) :
    RefusalFinal (imageVisits .new (calls.map Turn.onBudget)) ↔
      NoneFitsLater (imageVisits .new (calls.map Turn.onBudget)) := by
  generalize ImageState.new = state
  induction calls generalizing state with
  | nil => simp [imageVisits, RefusalFinal, NoneFitsLater]
  | cons call calls ih =>
      obtain ⟨visit, visited, _, first⟩ := visits_onBudget_cons state call calls
      have refuses := visited.eligible_iff.2
      have rest := ih visit.after
      have later := none_accepted_iff calls visit.after
      unfold RefusalFinal NoneFitsLater at rest ⊢
      rw [first, List.pairwise_cons, List.pairwise_cons, rest]
      refine and_congr_left fun _ => ?_
      by_cases refused : visit.outcome = .reject .wImageBudget
      · obtain ⟨eligible, exceeds⟩ := refuses.mp refused
        have rejected : visit.outcome.isAccepted = false := by
          rw [refused]
          rfl
        rw [visited.budget_of_rejected rejected] at later
        simpa only [refused, eligible, exceeds, not_false_eq_true, forall_const] using later
      · constructor
        · intro _ other _ eligible exceeds
          exact absurd (refuses.mpr ⟨eligible, exceeds⟩) refused
        · intro _ other _ isRefused
          exact absurd isRefused refused

/-- A core whose hash of a body is the body. -/
@[reducible]
def plainImages : ImageCore where
  ImageHash := Bytes
  decEq := inferInstance
  sha256Image body := body
  hashText := LowerHex.encode

/-- A still image that decodes to its declared dimensions. -/
def stillImage (body : Bytes) (width height : UInt32) : ImageCall plainImages :=
  .verifyImage { src := ⟨"/img/a.png"⟩, sha256 := body, mediaType := .png, width, height } body
    "image/png" fun _ _ => .ok { width, height, animated := false }

/-- A small image is accepted after the budget refused a large one. -/
theorem refusal_not_final :
    ¬ RefusalFinal (imageVisits .new
      ([(stillImage [1] 4096 4000, none), (stillImage [2, 2] 1000 1000, none),
        (stillImage [3, 3, 3] 10 10, none)].map Turn.onBudget)) := by
  have outcomes : (imageVisits .new
      ([(stillImage [1] 4096 4000, none), (stillImage [2, 2] 1000 1000, none),
        (stillImage [3, 3, 3] 10 10, none)].map Turn.onBudget)).map ImageVisit.outcome =
      [.accept ⟨4096, 4000, false⟩, .reject .wImageBudget, .accept ⟨10, 10, false⟩] := by
    decide
  intro final
  have onOutcomes : [ImageOutcome.accept ⟨4096, 4000, false⟩, .reject .wImageBudget,
      .accept ⟨10, 10, false⟩].Pairwise fun earlier later =>
        earlier = .reject .wImageBudget → later.isAccepted = false := by
    rw [← outcomes, List.pairwise_map]
    exact final
  exact absurd onOutcomes (by decide)

/-! ### Which images are recorded -/

/-- The path holds no separator of the key. -/
def EntangledPath.Plain (path : EntangledPath) : Prop :=
  '\x00' ∉ path.text.toList

/-- The text of a hash holds no separator of the key, and tells hashes apart. -/
structure ImageCore.PlainHashes (I : ImageCore) : Prop where
  noSeparator : ∀ hash, '\x00' ∉ (I.hashText hash).toList
  injective : Function.Injective I.hashText

/-- What stands before the first separator, and what after it. -/
theorem append_separator_inj {α : Type*} {separator : α} {first second rest rest' : List α}
    (firstPlain : separator ∉ first) (secondPlain : separator ∉ second)
    (equal : first ++ separator :: rest = second ++ separator :: rest') :
    first = second ∧ rest = rest' := by
  induction first generalizing second with
  | nil =>
      cases second with
      | nil => exact ⟨rfl, (List.cons.inj equal).2⟩
      | cons element second =>
          have head := (List.cons.inj equal).1
          exact absurd (head ▸ List.mem_cons_self ..) secondPlain
  | cons element first ih =>
      cases second with
      | nil =>
          have head := (List.cons.inj equal).1
          exact absurd (head ▸ List.mem_cons_self ..) firstPlain
      | cons element' second =>
          obtain ⟨head, tail⟩ := List.cons.inj equal
          rw [List.mem_cons, not_or] at firstPlain secondPlain
          obtain ⟨sameFirst, sameRest⟩ := ih firstPlain.2 secondPlain.2 tail
          exact ⟨by rw [head, sameFirst], sameRest⟩

theorem mediaTypeStr_injective : Function.Injective mediaTypeStr := by
  intro first second
  cases first <;> cases second <;> decide

/-- Over plain paths and hashes the key determines the triple. -/
theorem key_eq_iff (plainHashes : I.PlainHashes) {image other : ImageRef I}
    (imagePlain : image.src.Plain) (otherPlain : other.src.Plain) :
    NoRetrySet.key image = NoRetrySet.key other ↔ image.SameTriple other := by
  constructor
  · intro sameKey
    have chars := congrArg String.toList sameKey
    simp only [NoRetrySet.key, String.toList_append, List.append_assoc] at chars
    obtain ⟨sameSrc, rest⟩ := append_separator_inj imagePlain otherPlain chars
    obtain ⟨sameHash, sameType⟩ := append_separator_inj (plainHashes.noSeparator _)
      (plainHashes.noSeparator _) rest
    have src : image.src.text = other.src.text := String.toList_injective sameSrc
    have sha256 := plainHashes.injective (String.toList_injective sameHash)
    have mediaType := mediaTypeStr_injective (String.toList_injective sameType)
    exact ⟨EntangledPath.ext src, sha256, mediaType⟩
  · exact ImageRef.SameTriple.key_eq

theorem oneSet_onSet {calls : List (ImageCall I × Option ImageBudget)} :
    ∀ turn ∈ calls.map Turn.onSet, turn.noRetry = none := by
  intro turn member
  obtain ⟨call, _, rfl⟩ := List.mem_map.mp member
  rfl

/-- The failed images of a session of calls; its first document has the given
budget. -/
def setAfter (budget : ImageBudget) (calls : List (ImageCall I × Option ImageBudget)) :
    NoRetrySet :=
  (stateAfter ⟨budget, .new⟩ (calls.map Turn.onSet)).noRetry

theorem visit_call_mem {turns : List (Turn I)} {state : ImageState} {visit : ImageVisit I}
    (member : visit ∈ imageVisits state turns) : ∃ turn ∈ turns, visit.call = turn.call := by
  induction turns generalizing state with
  | nil => cases member
  | cons turn turns ih =>
      rcases List.mem_cons.mp member with rfl | later
      · exact ⟨turn, List.mem_cons_self .., visit_call _ _⟩
      · obtain ⟨other, inRest, isCall⟩ := ih later
        exact ⟨other, List.mem_cons_of_mem _ inRest, isCall⟩

/-- The set holds an image if and only if a call with its triple failed, under
whatever budgets. -/
theorem contains_iff_failed (plainHashes : I.PlainHashes)
    {calls : List (ImageCall I × Option ImageBudget)}
    (callsPlain : ∀ call ∈ calls, call.1.image.src.Plain) (budget : ImageBudget)
    {image : ImageRef I} (imagePlain : image.src.Plain) :
    (setAfter budget calls).contains image = true ↔
      Failed (imageVisits ⟨budget, .new⟩ (calls.map Turn.onSet)) image := by
  have empty : ¬ NoRetrySet.new.contains image = true := by
    simp [NoRetrySet.contains, NoRetrySet.new]
  rw [setAfter, contains_stateAfter _ oneSet_onSet, or_iff_right empty]
  unfold Failed
  refine exists_congr fun visit => and_congr_right fun made => and_congr_right fun _ => ?_
  have visitPlain : visit.call.image.src.Plain := by
    obtain ⟨turn, member, isCall⟩ := visit_call_mem made
    obtain ⟨call, inCalls, rfl⟩ := List.mem_map.mp member
    rw [isCall]
    exact callsPlain call inCalls
  exact key_eq_iff plainHashes imagePlain visitPlain

/-- What was recorded stays recorded. -/
theorem contains_setAfter_append {budget : ImageBudget}
    {calls : List (ImageCall I × Option ImageBudget)} {image : ImageRef I}
    (contained : (setAfter budget calls).contains image = true)
    (later : List (ImageCall I × Option ImageBudget)) :
    (setAfter budget (calls ++ later)).contains image = true := by
  have split : setAfter budget (calls ++ later) =
      (stateAfter (stateAfter ⟨budget, .new⟩ (calls.map Turn.onSet))
        (later.map Turn.onSet)).noRetry := by
    rw [setAfter, List.map_append, stateAfter, List.foldl_append]
    rfl
  rw [split]
  exact (contains_stateAfter _ oneSet_onSet _ image).mpr (.inl contained)

/-- A call that is rejected without looking at the body. -/
structure ShortCircuited (visit : ImageVisit I) : Prop where
  rejected : visit.outcome.isAccepted = false
  undecoded : visit.decodes = []
  uncharged : visit.after.budget = visit.before.budget

/-- The set holds exactly the failed triples, and it is exactly their images that
are never checked again. -/
theorem no_retry_exact (plainHashes : I.PlainHashes)
    (calls : List (ImageCall I × Option ImageBudget))
    (callsPlain : ∀ call ∈ calls, call.1.image.src.Plain) (budget : ImageBudget)
    (image : ImageRef I) (imagePlain : image.src.Plain) :
    let made := imageVisits ⟨budget, .new⟩ (calls.map Turn.onSet)
    ((setAfter budget calls).contains image = true ↔ Failed made image) ∧
      (Failed made image → ∀ later body contentType decoder handed,
        ShortCircuited ((ImageCall.verifyImage image body contentType decoder).visit
          ⟨handed, setAfter budget (calls ++ later)⟩)) ∧
      (¬ Failed made image → ∀ body contentType decoder handed,
        let visit := (ImageCall.verifyImage image body contentType decoder).visit
          ⟨handed, setAfter budget calls⟩
        (runChecks image body contentType handed).run decoder.handler [] =
          (.ok (visit.outcome, visit.after.budget), visit.decodes)) := by
  have exact := contains_iff_failed plainHashes callsPlain budget imagePlain
  refine ⟨exact, ?_, ?_⟩
  · intro failed later body contentType decoder handed
    have known := contains_setAfter_append (exact.mpr failed) later
    rw [visit_known ⟨handed, setAfter budget (calls ++ later)⟩ known]
    exact ⟨rfl, rfl, rfl⟩
  · intro fresh body contentType decoder handed
    have unknown : ¬ (setAfter budget calls).contains image = true := mt exact.mp fresh
    obtain ⟨outcome, after, decodes, ran, _⟩ :=
      runChecks_checked image body contentType decoder handed
    rw [visit_unknown ⟨handed, setAfter budget calls⟩ unknown ran]
    exact ran

theorem plainHashes_plainImages : plainImages.PlainHashes where
  noSeparator := by
    intro hash member
    have inChars : '\x00' ∈ (String.ofList (LowerHex.encodeChars hash)).toList := member
    rw [String.toList_ofList] at inChars
    obtain ⟨byte, _, isDigit⟩ := List.mem_flatMap.mp inChars
    have digits : ∀ half : Fin 16, LowerHex.digit half.val ≠ '\x00' := by decide
    have bound := byte.toNat_lt
    rcases List.mem_pair.mp isDigit with high | low
    · exact digits ⟨byte.toNat / 16, by omega⟩ high.symm
    · exact digits ⟨byte.toNat % 16, by omega⟩ low.symm
  injective := by
    intro first second sameText
    have decoded := congrArg LowerHex.decode sameText
    simpa only [plainImages, LowerHex.decode_encode, Option.some.injEq] using decoded

/-- After a failed fetch, the image is known and not tried again. -/
theorem no_retry_exact_fetchFailed :
    let image := (stillImage [1] 8 8).image
    (setAfter .new [(.fetchFailed image, none)]).contains image = true ∧
      ShortCircuited ((stillImage [1] 8 8).visit
        ⟨.new, setAfter .new [(.fetchFailed image, none)]⟩) := by
  have plain : (stillImage [1] 8 8).image.src.Plain := by
    unfold EntangledPath.Plain
    decide
  have recorded := no_retry_exact plainHashes_plainImages
    [(.fetchFailed (stillImage [1] 8 8).image, none)]
    (List.forall_mem_singleton.mpr plain) .new
    (stillImage [1] 8 8).image plain
  have failed : Failed (imageVisits ⟨.new, .new⟩
      ([(ImageCall.fetchFailed (stillImage [1] 8 8).image, none)].map Turn.onSet))
      (stillImage [1] 8 8).image :=
    ⟨_, List.mem_cons_self .., rfl, rfl, rfl, rfl⟩
  exact ⟨recorded.1.mpr failed, recorded.2.1 failed [] [1] "image/png" _ .new⟩

end EntangledClient
