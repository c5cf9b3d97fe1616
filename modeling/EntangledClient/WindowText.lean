import EntangledClient.WindowChrome

/-!
# The texts on the screen

Every text of every frame is one of the shell's own, or isolated publisher values in one of a
few templates, whatever the publisher, the address and the stores supply.
-/

namespace EntangledClient

open CallTree

variable {T : CoreTypes} {core : Core T} {nodes : T.Scene → List SceneNode}

/-! ### The texts of the shell -/

def chromeTexts : List String := [
  notAClient, "TRUST", "externally verified", "TOFU pinned", "first contact",
  "CHANGED / MISMATCH", "CANARY", "fresh", "near expiration", "expired", "invalid",
  "unavailable", "REQUEST", "active", pipLabelText ++ " (PIP)",
  "- compare these words out of band", "show identity phrase", "\u26A0", "🕒",
  "Publisher identity changed / mismatch", "Canary conflict", "Canary expired",
  "Canary invalid", "Canary gap observed", "Historical content", "Stale cached content"]

def promptTexts : List String := [
  "First contact - retain this publisher's identity?", pinPanelText,
  "Pin this identity (TOFU)", "I have verified the PIP out of band", "Not now",
  "Publisher identity changed - resolve before trusting", mismatchPanelText,
  "Previously retained identity", "Newly presented identity", "Confirm the new identity",
  "I have verified the new PIP out of band", "Cancel (stay in mismatch)"]

def contentTexts : List String := [
  "Content blocked: the publisher's canary has expired",
  canaryBlockText,
  "Show content for this session",
  "Expired-canary content is shown by your override for this session.",
  "(manifest only - no content document loaded)", "\u2022", "[image]",
  HandoffKind.carrier.tag, HandoffKind.citation.tag]

def dialogTexts : List String := [
  HandoffKind.carrier.title, HandoffKind.citation.title, "Trust boundary",
  HandoffKind.carrier.notice, HandoffKind.citation.notice, "Copy URL", "Cancel"]

/-- The shell's own words. -/
def fixedTexts : List String :=
  chromeTexts ++ promptTexts ++ contentTexts ++ dialogTexts

/-- Publisher values, each in its own isolate, with nothing in between. -/
def isolated (values : List String) : String :=
  values.foldl (fun shown value => shown ++ isolatePublisherText value) ""

/-- A text of the shell: its own words, a position in a list, or publisher values that are
isolated, alone or in a template. -/
inductive Guarded : String → Prop
  | fixed {text : String} (member : text ∈ fixedTexts) : Guarded text
  | position (number : Nat) : Guarded (toString number ++ ".")
  | isolated (values : List String) : Guarded (EntangledClient.isolated values)
  | attribution (values : List String) : Guarded ("-- " ++ EntangledClient.isolated values)
  | image (alt : String) : Guarded ("[image: " ++ isolatePublisherText alt ++ "]")
  | field {kind : String} (isKind : kind ∈ ["text", "textarea", "select", "checkbox"])
      (label : String) : Guarded ("[" ++ kind ++ "] " ++ isolatePublisherText label)
  | submit (label : String) : Guarded ("[ " ++ isolatePublisherText label ++ " ]")

/-! ### Isolates in these texts -/

/-- No character is a control. -/
def Plain (text : String) : Prop :=
  ∀ ch ∈ text.toList, ch ∉ bidiControls

theorem plain_literal {chars : List Char} (noControl : chars.all (!isBidiControl ·) = true) :
    Plain (String.ofList chars) := by
  intro ch isChar control
  have member : ch ∈ chars := by simpa using isChar
  have notControl := List.all_eq_true.mp noControl ch member
  simp [isBidiControl_of_mem control] at notControl

theorem Plain.append {first second : String} (plainFirst : Plain first)
    (plainSecond : Plain second) : Plain (first ++ second) := by
  intro ch isChar
  rw [String.toList_append] at isChar
  exact (List.mem_append.mp isChar).elim (plainFirst ch) (plainSecond ch)

theorem plain_notice (kind : HandoffKind) : Plain kind.notice := by
  cases kind with
  | carrier =>
      exact .append (.append (.append (.append (plain_literal (by decide))
        (plain_literal (by decide))) (plain_literal (by decide)))
        (plain_literal (by decide))) (plain_literal (by decide))
  | citation =>
      exact .append (.append (plain_literal (by decide)) (plain_literal (by decide)))
        (plain_literal (by decide))

theorem plain_chromeTexts : ∀ text ∈ chromeTexts, Plain text := by
  have pipLabel : Plain (pipLabelText ++ " (PIP)") :=
    .append (plain_literal (by decide)) (plain_literal (by decide))
  simp only [chromeTexts, List.forall_mem_cons, List.not_mem_nil, false_imp_iff, implies_true,
    and_true, true_and, pipLabel]
  repeat' apply And.intro
  all_goals exact plain_literal (by decide)

theorem plain_promptTexts : ∀ text ∈ promptTexts, Plain text := by
  have pinPanel : Plain pinPanelText :=
    .append (.append (plain_literal (by decide)) (plain_literal (by decide)))
      (plain_literal (by decide))
  have mismatchPanel : Plain mismatchPanelText :=
    .append (.append (.append (plain_literal (by decide)) (plain_literal (by decide)))
      (plain_literal (by decide))) (plain_literal (by decide))
  simp only [promptTexts, List.forall_mem_cons, List.not_mem_nil, false_imp_iff, implies_true,
    and_true, true_and, pinPanel, mismatchPanel]
  repeat' apply And.intro
  all_goals exact plain_literal (by decide)

theorem plain_contentTexts : ∀ text ∈ contentTexts, Plain text := by
  have block : Plain canaryBlockText :=
    .append (.append (plain_literal (by decide)) (plain_literal (by decide)))
      (plain_literal (by decide))
  simp only [contentTexts, List.forall_mem_cons, List.not_mem_nil, false_imp_iff, implies_true,
    and_true, true_and, block]
  repeat' apply And.intro
  all_goals exact plain_literal (by decide)

theorem plain_dialogTexts : ∀ text ∈ dialogTexts, Plain text := by
  have carrier := plain_notice .carrier
  have citation := plain_notice .citation
  simp only [dialogTexts, List.forall_mem_cons, List.not_mem_nil, false_imp_iff, implies_true,
    and_true, true_and, carrier, citation]
  repeat' apply And.intro
  all_goals exact plain_literal (by decide)

theorem plain_fixedTexts : ∀ text ∈ fixedTexts, Plain text := by
  simp only [fixedTexts, List.forall_mem_append]
  exact ⟨⟨⟨plain_chromeTexts, plain_promptTexts⟩, plain_contentTexts⟩, plain_dialogTexts⟩

/-- A number is written in digits. -/
theorem plain_number (value : Nat) : Plain (toString value) := by
  intro ch isShown control
  have isDigit : ch ∈ Nat.toDigits 10 value := by
    simpa [toString, Nat.repr] using isShown
  have digit : ch.isDigit = true :=
    Nat.isDigit_of_mem_toDigits (b := 10) (by decide) (by decide) isDigit
  have all : bidiControls.all (fun ch => !ch.isDigit) = true := by decide
  have notDigit := List.all_eq_true.mp all ch control
  simp [digit] at notDigit

theorem Plain.flat {text : String} (plain : Plain text) : isolates.Flat text.toList :=
  Brackets.flat_of_neutral fun ch member => neutral_of_not_control (plain ch member)

theorem flat_append {first second : String} (flatFirst : isolates.Flat first.toList)
    (flatSecond : isolates.Flat second.toList) : isolates.Flat (first ++ second).toList := by
  rw [String.toList_append]
  exact flatFirst.append flatSecond

theorem flat_isolated (values : List String) : isolates.Flat (isolated values).toList := by
  have each : ∀ (values : List String) (shown : String), isolates.Flat shown.toList →
      isolates.Flat (values.foldl (fun shown value => shown ++ isolatePublisherText value)
        shown).toList := by
    intro values
    induction values with
    | nil => exact fun _ flat => flat
    | cons value values ih =>
        exact fun shown flat => ih _ (flat_append flat (isolatePublisherText_flat value))
  exact each values "" Brackets.flat_nil

/-- The isolates of a text of the shell open and close in pairs. -/
theorem Guarded.flat {text : String} (guarded : Guarded text) : isolates.Flat text.toList := by
  cases guarded with
  | fixed member => exact (plain_fixedTexts _ member).flat
  | position number => exact ((plain_number number).append (plain_literal (by decide))).flat
  | isolated values => exact flat_isolated values
  | attribution values =>
      exact flat_append (plain_literal (by decide)).flat (flat_isolated values)
  | image alt =>
      exact flat_append (flat_append (plain_literal (by decide)).flat
        (isolatePublisherText_flat alt)) (plain_literal (by decide)).flat
  | @field kind isKind label =>
      have plainKind : Plain kind := by
        simp only [List.mem_cons, List.not_mem_nil, or_false] at isKind
        rcases isKind with rfl | rfl | rfl | rfl <;> exact plain_literal (by decide)
      exact flat_append (((plain_literal (by decide)).append plainKind).append
        (plain_literal (by decide))).flat (isolatePublisherText_flat label)
  | submit label =>
      exact flat_append (flat_append (plain_literal (by decide)).flat
        (isolatePublisherText_flat label)) (plain_literal (by decide)).flat

theorem Guarded.value (value : String) : Guarded (isolatePublisherText value) := by
  have single := Guarded.isolated [value]
  simpa [EntangledClient.isolated] using single

theorem runsJob_eq_isolated (runs : List InlineRun) :
    runsJob runs = isolated (runs.map InlineRun.shown) := by
  rw [runsJob, isolated, List.foldl_map]
  congr

theorem runsText_eq_isolated (runs : List InlineRun) :
    runsText runs = isolated (runs.map InlineRun.shown) := by
  rw [runsText, isolated, List.foldl_map]
  congr
  funext shown run
  cases run <;> rfl

namespace Guarded

theorem chrome {text : String} (member : text ∈ chromeTexts) : Guarded text :=
  .fixed (by simp [fixedTexts, member])

theorem prompt {text : String} (member : text ∈ promptTexts) : Guarded text :=
  .fixed (by simp [fixedTexts, member])

theorem content {text : String} (member : text ∈ contentTexts) : Guarded text :=
  .fixed (by simp [fixedTexts, member])

theorem dialog {text : String} (member : text ∈ dialogTexts) : Guarded text :=
  .fixed (by simp [fixedTexts, member])

theorem runsJob (runs : List InlineRun) : Guarded (EntangledClient.runsJob runs) :=
  runsJob_eq_isolated runs ▸ .isolated _

end Guarded

/-! ### The elements that show them -/

/-- Every text that the elements show is guarded. -/
def AllGuarded (drawn : List Drawn) : Prop :=
  ∀ element ∈ drawn, ∀ text ∈ element.texts, Guarded text

namespace AllGuarded

theorem nil : AllGuarded [] :=
  List.forall_mem_nil _

theorem cons {element : Drawn} {rest : List Drawn} (first : ∀ text ∈ element.texts, Guarded text)
    (others : AllGuarded rest) : AllGuarded (element :: rest) :=
  List.forall_mem_cons.mpr ⟨first, others⟩

theorem label {text : String} {rest : List Drawn} (guarded : Guarded text)
    (others : AllGuarded rest) : AllGuarded (.label text :: rest) :=
  cons (List.forall_mem_singleton.mpr guarded) others

theorem button {control : Control} {text : String} {rest : List Drawn} (guarded : Guarded text)
    (others : AllGuarded rest) : AllGuarded (.button control text :: rest) :=
  cons (List.forall_mem_singleton.mpr guarded) others

theorem pill {category value : String} {severity : Severity} {rest : List Drawn}
    (first : Guarded category) (second : Guarded value) (others : AllGuarded rest) :
    AllGuarded (.pill category value severity :: rest) :=
  cons (List.forall_mem_cons.mpr ⟨first, List.forall_mem_singleton.mpr second⟩) others

theorem banner {glyph text : String} {severity : Severity} {rest : List Drawn}
    (first : Guarded glyph) (second : Guarded text) (others : AllGuarded rest) :
    AllGuarded (.banner glyph text severity :: rest) :=
  cons (List.forall_mem_cons.mpr ⟨first, List.forall_mem_singleton.mpr second⟩) others

theorem append {first second : List Drawn} (firstGuarded : AllGuarded first)
    (secondGuarded : AllGuarded second) : AllGuarded (first ++ second) :=
  List.forall_mem_append.mpr ⟨firstGuarded, secondGuarded⟩

theorem map {α : Type} {draw : α → Drawn} (items : List α)
    (each : ∀ item, AllGuarded [draw item]) : AllGuarded (items.map draw) := by
  induction items with
  | nil => exact nil
  | cons item items ih => exact append (each item) ih

theorem toList {value : Option String} {shown : String → String}
    (each : ∀ text, Guarded (shown text)) :
    AllGuarded (value.map fun text => Drawn.label (shown text)).toList := by
  cases value with
  | none => exact nil
  | some text => exact label (each text) nil

end AllGuarded

open AllGuarded

/-! ### The chrome -/

theorem trustPill_guarded (state : TrustState) : AllGuarded [trustPill state] := by
  rw [trustPill, statusPill_trust]
  refine pill (.chrome (by simp [chromeTexts])) (.chrome ?_) nil
  cases state <;> simp [trustBadge, chromeTexts]

theorem canaryPill_guarded (state : CanaryState) : AllGuarded [canaryPill state] := by
  rw [canaryPill, statusPill_canary]
  refine pill (.chrome (by simp [chromeTexts])) (.chrome ?_) nil
  cases state <;> simp [canaryBadge, chromeTexts]

theorem warningBanner_guarded (warning : Warning) : AllGuarded [warningBanner warning] := by
  cases warning <;>
    exact banner (.chrome (by simp [chromeTexts])) (.chrome (by simp [chromeTexts])) nil

theorem drawPipCard_guarded {chrome : ChromeView} (label_ : chrome.pipLabel = pipLabelText)
    (input : FrameInput) : AllGuarded (drawPipCard chrome input) := by
  refine append (label (.chrome ?_) (label (.chrome (by simp [chromeTexts])) nil)) ?_
  · simp [label_, chromeTexts]
  · split
    · exact label (.value _) nil
    · refine label (.chrome (by simp [chromeTexts])) ?_
      split
      · exact label (.value _) nil
      · exact nil

theorem drawChrome_guarded {chrome : ChromeView} (label_ : chrome.pipLabel = pipLabelText)
    (input : FrameInput) : AllGuarded (drawChrome chrome input) := by
  refine append (append (append ?_ ?_) (drawPipCard_guarded label_ input))
    (map chrome.warnings warningBanner_guarded)
  · exact label (.chrome (by simp [chromeTexts])) (append (trustPill_guarded chrome.trustState)
      (append (canaryPill_guarded chrome.canaryState) (label (.value _) nil)))
  · split
    · rw [statusPill_request]
      exact pill (.chrome (by simp [chromeTexts])) (.chrome (by simp [chromeTexts])) nil
    · exact nil

theorem drawPinPanel_guarded (input : FrameInput) : AllGuarded (drawPinPanel input).1 :=
  label (.prompt (by simp [promptTexts])) (label (.prompt (by simp [promptTexts]))
    (button (.prompt (by simp [promptTexts])) (button (.prompt (by simp [promptTexts]))
    (button (.prompt (by simp [promptTexts])) nil))))

theorem drawMismatchPanel_guarded (state : MismatchState) (input : FrameInput) :
    AllGuarded (drawMismatchPanel state input).1 :=
  label (.chrome (by simp [chromeTexts])) (label (.prompt (by simp [promptTexts]))
    (label (.prompt (by simp [promptTexts])) (label (.prompt (by simp [promptTexts]))
    (label (.value _) (label (.prompt (by simp [promptTexts])) (label (.value _)
    (button (.prompt (by simp [promptTexts])) (button (.prompt (by simp [promptTexts]))
    (button (.prompt (by simp [promptTexts])) nil)))))))))

theorem drawActionPanel_guarded (app : App T) (input : FrameInput) :
    AllGuarded (drawActionPanel app input).1 := by
  unfold drawActionPanel
  cases app.pinPrompt with
  | some state => exact drawPinPanel_guarded input
  | none =>
      cases app.mismatchPrompt with
      | some state => exact drawMismatchPanel_guarded state input
      | none => exact nil

/-! ### The content -/

theorem canaryBlock_guarded : AllGuarded canaryBlock :=
  label (.chrome (by simp [chromeTexts])) (label (.content (by simp [contentTexts]))
    (label (.content (by simp [contentTexts])) (button (.content (by simp [contentTexts])) nil)))

theorem overrideActiveNotice_guarded : AllGuarded overrideActiveNotice :=
  label (.chrome (by simp [chromeTexts])) (label (.content (by simp [contentTexts])) nil)

theorem drawItems_guarded (ordered : Bool) (first : Nat) (items : List (List InlineRun)) :
    AllGuarded (drawItems ordered first items) := by
  induction items generalizing first with
  | nil => exact nil
  | cons item items ih =>
      refine label ?_ (label (.runsJob item) (ih (first + 1)))
      split
      · exact .position _
      · exact .content (by simp [contentTexts])

theorem fieldLabel_guarded (field : FormFieldView) : Guarded (fieldLabel field) := by
  cases field <;> exact .field (by simp) _

theorem drawNode_guarded (clicked : Control → Bool) (index : Nat) (node : SceneNode)
    (handoff : Option Handoff) : AllGuarded (drawNode clicked index node handoff).1 := by
  cases node with
  | paragraph runs | heading runs | feedback runs => exact label (.runsJob runs) nil
  | codeBlock text => exact label (.value text) nil
  | quote runs attribution =>
      refine label (.runsJob runs) ?_
      cases attribution with
      | none => exact nil
      | some attr => exact label (runsText_eq_isolated attr ▸ .attribution _) nil
  | list ordered items => exact drawItems_guarded ordered 0 items
  | divider => exact cons (by simp [Drawn.texts]) nil
  | image alt caption =>
      refine label ?_ (toList Guarded.value)
      split
      · exact .content (by simp [contentTexts])
      · exact .image alt
  | link text link =>
      simp only [drawNode]
      cases externalHandoff link with
      | none => exact label (.runsJob text) nil
      | some target =>
          refine button (.runsJob text) (button (.content ?_) nil)
          cases target.kind <;> simp [contentTexts]
  | submitForm text fields submitLabel =>
      refine append (label (.runsJob text) (map fields fun field => ?_))
        (label (.submit submitLabel) nil)
      exact label (fieldLabel_guarded field) nil
  | note title runs => exact append (toList Guarded.value) (label (.runsJob runs) nil)

theorem drawNodes_guarded (clicked : Control → Bool) (index : Nat) (nodes : List SceneNode)
    (handoff : Option Handoff) : AllGuarded (drawNodes clicked index nodes handoff).1 := by
  induction nodes generalizing index handoff with
  | nil => exact nil
  | cons node nodes ih => exact append (drawNode_guarded clicked index node handoff) (ih _ _)

theorem drawContent_guarded (scene : Option (List SceneNode)) (expired override : Bool)
    (input : FrameInput) : AllGuarded (drawContent scene expired override input).drawn := by
  unfold drawContent
  have notice : AllGuarded (if expired && override then overrideActiveNotice else []) := by
    split
    · exact overrideActiveNotice_guarded
    · exact nil
  split
  · exact canaryBlock_guarded
  · cases scene with
    | some nodes => exact append notice (drawNodes_guarded input.clicked 0 nodes none)
    | none => exact append notice (label (.content (by simp [contentTexts])) nil)

/-! ### The dialog -/

theorem showHandoff_guarded (handoff : Option Handoff) (input : FrameInput) :
    AllGuarded (showHandoff handoff input).drawn := by
  cases handoff with
  | none => exact nil
  | some target =>
      refine label (.dialog ?_) (label (.chrome (by simp [chromeTexts]))
        (label (.dialog (by simp [dialogTexts])) (label (.dialog ?_) (label (.value target.url)
        (button (.dialog (by simp [dialogTexts]))
          (button (.dialog (by simp [dialogTexts])) nil))))))
      · cases target.kind <;> simp [dialogTexts]
      · cases target.kind <;> simp [dialogTexts]

/-! ### Every frame of the viewer -/

namespace ShellApp

variable {loaded : Loaded T} {reloaded : Option RetainedIdentity}

theorem chromeFrame_guarded {shell : ShellApp T} (reached : shell.app.Reached core loaded)
    (resolved : loaded.Resolved core) (input : FrameInput) :
    AllGuarded (shell.chromeFrame input).1 := by
  obtain ⟨state, chrome⟩ := reached.chrome resolved
  exact append (drawChrome_guarded (by rw [chrome]; rfl) input)
    (drawActionPanel_guarded shell.app input)

theorem Frames.guarded {inputs : List FrameInput} {shell : ShellApp T}
    {outputs : List FrameOutput}
    (frames : Frames core nodes loaded reloaded inputs shell outputs)
    (resolved : loaded.Resolved core) : ∀ output ∈ outputs, AllGuarded output.drawn := by
  induction frames with
  | opened => exact List.forall_mem_nil _
  | @frame inputs shell outputs before input app answered ih =>
      refine List.forall_mem_append.mpr ⟨ih, List.forall_mem_singleton.mpr ?_⟩
      exact append (append (chromeFrame_guarded before.reached resolved input)
        (drawContent_guarded _ _ _ input)) (showHandoff_guarded _ input)

end ShellApp

/-- Every text of every frame is the shell's own, but for publisher values in their isolates. -/
theorem viewer_text {σ : Type} {handler : Handler storeInterface σ} {start after : σ}
    {request : BuildRequest} {inputs : List FrameInput} {last : ShellApp T}
    {outputs : List FrameOutput}
    (ran : (ShellApp.viewer core nodes request inputs).run handler start =
      (.ok (.ok (last, outputs)), after)) :
    ∀ output ∈ outputs, ∀ element ∈ output.drawn, ∀ text ∈ element.texts,
      Guarded text ∧ isolates.Flat text.toList := by
  obtain ⟨loaded, reloaded, loads, -, frames⟩ := ShellApp.viewer_shows ran
  intro output isOutput element isDrawn text isText
  have guarded := frames.guarded loads.resolved output isOutput element isDrawn text isText
  exact ⟨guarded, guarded.flat⟩

theorem viewer_text_link :
    ∃ last outputs after, SampleCore.linkViewer = (.ok (.ok (last, outputs)), after) ∧
      ∀ output ∈ outputs, ∀ element ∈ output.drawn, ∀ text ∈ element.texts,
        Guarded text ∧ isolates.Flat text.toList := by
  obtain ⟨last, outputs, after, ran⟩ := SampleCore.linkViewer_shows
  exact ⟨last, outputs, after, ran, viewer_text ran⟩

end EntangledClient
