import EntangledClient.GuiApp
import EntangledClient.SceneDrawing

/-!
# The frames of the window

In each frame the window draws the chrome with the prompt that is open, then the content or
the block of an expired canary, then the dialog of an external link, and acts on what was
clicked.  The stores are called only to apply a decision.
-/

namespace EntangledClient

variable {T : CoreTypes}

/-! ### The chrome -/

def notAClient : String :=
  "entangled-client-gui - work in progress (live pinning; NOT yet a fully conforming client)"

def trustBadge : TrustState → String × Severity
  | .externallyVerified => ("externally verified", .good)
  | .tofuPinned => ("TOFU pinned", .good)
  | .firstContact => ("first contact", .caution)
  | .changedMismatch => ("CHANGED / MISMATCH", .alert)

def canaryBadge : CanaryState → String × Severity
  | .fresh => ("fresh", .good)
  | .nearExpiration => ("near expiration", .caution)
  | .expired => ("expired", .alert)
  | .invalid => ("invalid", .alert)
  | .unavailable => ("unavailable", .neutral)

def warningBanner : Warning → Drawn
  | .trustMismatch => .banner "\u26A0" "Publisher identity changed / mismatch" .alert
  | .canaryConflict => .banner "\u26A0" "Canary conflict" .alert
  | .canaryExpired => .banner "\u26A0" "Canary expired" .alert
  | .canaryInvalid => .banner "\u26A0" "Canary invalid" .alert
  | .canaryGap => .banner "\u26A0" "Canary gap observed" .caution
  | .historicalContent => .banner "🕒" "Historical content" .caution
  | .staleCachedContent => .banner "🕒" "Stale cached content" .caution

/-- A frame's input: which controls are clicked, and whether the user has unfolded the
identity phrase. -/
structure FrameInput where
  clicked : Control → Bool
  phraseUnfolded : Bool

/-- `draw_pip_card`: the phrase may be folded away where the chrome allows it. -/
def drawPipCard (chrome : ChromeView) (input : FrameInput) : List Drawn :=
  [.label (chrome.pipLabel ++ " (PIP)"), .label "- compare these words out of band"] ++
    if chrome.pipMustBeFullyShown then [.label (isolatePublisherText chrome.pip)]
    else .label "show identity phrase" ::
      if input.phraseUnfolded then [.label (isolatePublisherText chrome.pip)] else []

def statusPill (category value : String) (severity : Severity) : Drawn :=
  .pill (String.ofList (category.toList.map Char.toUpper)) value severity

def drawChrome (chrome : ChromeView) (input : FrameInput) : List Drawn :=
  let (trustLabel, trustSeverity) := trustBadge chrome.trustState
  let (canaryLabel, canarySeverity) := canaryBadge chrome.canaryState
  [.label notAClient, statusPill "trust" trustLabel trustSeverity,
    statusPill "canary" canaryLabel canarySeverity,
    .label (isolatePublisherText chrome.carrierAddressCompact)] ++
  (if chrome.requestStateActive then [statusPill "request" "active" .caution] else []) ++
  drawPipCard chrome input ++ chrome.warnings.map warningBanner

/-! ### The prompts -/

/-- What a prompt makes of a frame. -/
structure PromptAnswer where
  decision : Option UserDecision
  decline : Bool
  deriving DecidableEq

def pinPanelText : String :=
  "You have not seen this publisher before, and its identity is not externally verified. " ++
    "Retaining (pinning) it lets this client alert you when the publisher's key later " ++
    "changes. The 24-word PIP is shown above - compare it out of band before you trust it."

/-- Of two buttons clicked in one frame the later one decides. -/
def pinAnswer (input : FrameInput) : PromptAnswer where
  decision :=
    if input.clicked .pinVerified then some .confirmPip
    else if input.clicked .pinIdentity then some .pinFirstContact
    else none
  decline := input.clicked .pinNotNow

/-- `draw_pin_panel` -/
def drawPinPanel (input : FrameInput) : List Drawn × PromptAnswer :=
  ([.label "First contact - retain this publisher's identity?", .label pinPanelText,
      .button .pinIdentity "Pin this identity (TOFU)",
      .button .pinVerified "I have verified the PIP out of band",
      .button .pinNotNow "Not now"],
    pinAnswer input)

def mismatchPanelText : String :=
  "The key presented by this site does not match the identity you previously retained. " ++
    "This is expected after a deliberate key rotation, but it is also what impersonation " ++
    "or compromise looks like. The stored identity is not replaced unless you confirm. " ++
    "Compare both PIPs out of band:"

def mismatchAnswer (input : FrameInput) : PromptAnswer where
  decision :=
    if input.clicked .verifiedNewPip then some .confirmPip
    else if input.clicked .confirmIdentity then some .confirmNewIdentity
    else none
  decline := input.clicked .stayInMismatch

/-- `draw_mismatch_panel` -/
def drawMismatchPanel (state : MismatchState) (input : FrameInput) :
    List Drawn × PromptAnswer :=
  ([.label "\u26A0", .label "Publisher identity changed - resolve before trusting",
      .label mismatchPanelText,
      .label "Previously retained identity", .label (isolatePublisherText state.retainedPip),
      .label "Newly presented identity", .label (isolatePublisherText state.presentedPip),
      .button .confirmIdentity "Confirm the new identity",
      .button .verifiedNewPip "I have verified the new PIP out of band",
      .button .stayInMismatch "Cancel (stay in mismatch)"],
    mismatchAnswer input)

def drawActionPanel (app : App T) (input : FrameInput) : List Drawn × PromptAnswer :=
  match app.pinPrompt with
  | some _ => drawPinPanel input
  | none =>
      match app.mismatchPrompt with
      | some state => drawMismatchPanel state input
      | none => ([], { decision := none, decline := false })

/-! ### The content -/

def renderBlockActive (canaryExpired overrideActive : Bool) : Bool :=
  canaryExpired && !overrideActive

def canaryBlockText : String :=
  "The publisher missed a committed canary refresh. The content is not shown as " ++
    "current because an expired canary can signal an operational pause or a compromise. " ++
    "You may proceed for this session only."

/-- `draw_canary_block` -/
def canaryBlock : List Drawn :=
  [.label "\u26A0", .label "Content blocked: the publisher's canary has expired",
    .label canaryBlockText, .button .showContent "Show content for this session"]

/-- `draw_override_active_notice` -/
def overrideActiveNotice : List Drawn :=
  [.label "\u26A0",
    .label "Expired-canary content is shown by your override for this session."]

/-- What the content area does in a frame. -/
structure ContentArea where
  drawn : List Drawn
  requested : Option Handoff
  overrideClicked : Bool

def drawContent (scene : Option (List SceneNode)) (canaryExpired canaryOverride : Bool)
    (input : FrameInput) : ContentArea :=
  if renderBlockActive canaryExpired canaryOverride then
    { drawn := canaryBlock, requested := none, overrideClicked := input.clicked .showContent }
  else
    let notice := if canaryExpired && canaryOverride then overrideActiveNotice else []
    match scene with
    | some nodes =>
        let (drawn, requested) := drawScene input.clicked nodes
        { drawn := notice ++ drawn, requested, overrideClicked := false }
    | none =>
        { drawn := notice ++ [.label "(manifest only - no content document loaded)"]
          requested := none
          overrideClicked := false }

/-! ### The dialog of an external link -/

def HandoffKind.title : HandoffKind → String
  | .carrier => "Open carrier link?"
  | .citation => "Open clearnet link?"

def HandoffKind.notice : HandoffKind → String
  | .carrier =>
      "This link points outside Entangled to a service reachable over the carrier (Tor), " ++
        "not the clearnet. It is not auto-opened: copying it lets you open it in a " ++
        "carrier-aware browser (such as Tor Browser). Do not open it in a browser that " ++
        "would resolve the host over public DNS or the clearnet, which would leak the " ++
        "request and defeat the carrier's confidentiality."
  | .citation =>
      "This link leaves Entangled for the clearnet. Opening or copying it transmits the URL " ++
        "outside the carrier; the destination and any in-path observer on the clearnet may " ++
        "learn it was reached from here."

/-- What the dialog does in a frame. -/
structure HandoffDialog where
  drawn : List Drawn
  copied : Option String
  handoff : Option Handoff

/-- `show_handoff`: nothing but a click on its button copies the address. -/
def showHandoff (handoff : Option Handoff) (input : FrameInput) : HandoffDialog :=
  match handoff with
  | none => { drawn := [], copied := none, handoff := none }
  | some target =>
      let close := input.clicked .copyUrl || input.clicked .cancelHandoff
      { drawn :=
          [.label target.kind.title, .label "\u26A0", .label "Trust boundary",
            .label target.kind.notice, .label (isolatePublisherText target.url),
            .button .copyUrl "Copy URL", .button .cancelHandoff "Cancel"]
        copied := if input.clicked .copyUrl then some target.url else none
        handoff := if close || input.clicked .closeHandoff then none else some target }

/-! ### The window -/

/-- All of the shell's `App`: with the link that is handed off and the override. -/
structure ShellApp (T : CoreTypes) where
  app : App T
  handoff : Option Handoff
  canaryOverride : Bool

/-- What a frame shows, and what it puts on the clipboard. -/
structure FrameOutput where
  chrome : List Drawn
  content : List Drawn
  dialog : List Drawn
  copied : Option String

def FrameOutput.drawn (output : FrameOutput) : List Drawn :=
  output.chrome ++ output.content ++ output.dialog

namespace ShellApp

variable (core : Core T) (nodes : T.Scene → List SceneNode)

/-- `App::new` -/
def new (loaded : Loaded T) : StoreProgram (ShellApp T) := do
  let app ← App.new core loaded
  return { app, handoff := none, canaryOverride := false }

/-- The chrome of a frame, with the prompt that is open, and its answer. -/
def chromeFrame (shell : ShellApp T) (input : FrameInput) : List Drawn × PromptAnswer :=
  let (panel, answer) := drawActionPanel shell.app input
  (drawChrome shell.app.loaded.chrome input ++ panel, answer)

/-- A decision is applied; declining closes the prompt and persists nothing. -/
def answerPrompt (shell : ShellApp T) (answer : PromptAnswer) : StoreProgram (App T) :=
  match answer.decision with
  | some decision => shell.app.applyAndPersist core decision
  | none => return if answer.decline then shell.app.closePrompts else shell.app

def expired (shell : ShellApp T) : Bool :=
  shell.app.loaded.chrome.canaryState = .expired

/-- The rest of a frame, once a prompt was answered. -/
def contentFrame (shell : ShellApp T) (chrome : List Drawn) (input : FrameInput) :
    ShellApp T × FrameOutput :=
  let area := drawContent (shell.app.loaded.scene.map nodes) shell.expired
    shell.canaryOverride input
  let dialog := showHandoff (area.requested.or shell.handoff) input
  ({ app := shell.app
     handoff := dialog.handoff
     canaryOverride := shell.canaryOverride || area.overrideClicked },
   { chrome, content := area.drawn, dialog := dialog.drawn, copied := dialog.copied })

/-- `update` -/
def update (shell : ShellApp T) (input : FrameInput) : StoreProgram (ShellApp T × FrameOutput) := do
  let (chrome, answer) := shell.chromeFrame input
  let app ← shell.answerPrompt core answer
  return { shell with app }.contentFrame nodes chrome input

/-- Frames one after the other, with what each of them shows. -/
def frames (shell : ShellApp T) :
    List FrameInput → StoreProgram (ShellApp T × List FrameOutput)
  | [] => return (shell, [])
  | input :: inputs => do
      let (shell, output) ← shell.update core nodes input
      let (shell, outputs) ← shell.frames inputs
      return (shell, output :: outputs)

/-- A window from its opening through these frames. -/
def session (loaded : Loaded T) (inputs : List FrameInput) :
    StoreProgram (ShellApp T × List FrameOutput) := do
  let shell ← new core loaded
  shell.frames core nodes inputs

/-- The viewer: a window on the document that is built, if one is. -/
def viewer (request : BuildRequest) (inputs : List FrameInput) :
    StoreProgram (Except String (ShellApp T × List FrameOutput)) := do
  match ← build core request with
  | .error message => return .error message
  | .ok loaded =>
      let shown ← session core nodes loaded inputs
      return .ok shown

end ShellApp

end EntangledClient
