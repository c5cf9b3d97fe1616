import EntangledClient.BidiIsolation

/-!
# Drawing a content scene

The shell draws one element for each node of a scene and never follows a link: a click on a
link that leaves Entangled only requests the dialog for its address.
-/

namespace EntangledClient

/-! ### The code -/

/-- Which boundary an external link crosses. -/
inductive HandoffKind
  | carrier
  | citation
  deriving DecidableEq

structure Handoff where
  url : String
  kind : HandoffKind
  deriving DecidableEq

inductive LinkRef
  | carrier (url : String)
  | citation (url : String)
  | sameSite
  | entangled

/-- `None` for an internal target. -/
def externalHandoff : LinkRef → Option Handoff
  | .carrier url => some { url, kind := .carrier }
  | .citation url => some { url, kind := .citation }
  | .sameSite | .entangled => none

inductive FormFieldView
  | text (label : String)
  | textarea (label : String)
  | select (label : String)
  | checkbox (label : String)

def fieldLabel (field : FormFieldView) : String :=
  let (kind, label) :=
    match field with
    | .text label => ("text", label)
    | .textarea label => ("textarea", label)
    | .select label => ("select", label)
    | .checkbox label => ("checkbox", label)
  "[" ++ kind ++ "] " ++ isolatePublisherText label

inductive SceneNode
  | paragraph (runs : List InlineRun)
  | heading (runs : List InlineRun)
  | codeBlock (text : String)
  | quote (runs : List InlineRun) (attribution : Option (List InlineRun))
  | list (ordered : Bool) (items : List (List InlineRun))
  | divider
  | image (alt : String) (caption : Option String)
  | link (label : List InlineRun) (link : LinkRef)
  | submitForm (label : List InlineRun) (fields : List FormFieldView) (submitLabel : String)
  | feedback (runs : List InlineRun)
  | note (title : Option String) (runs : List InlineRun)

/-- What the user can click, besides scrolling. -/
inductive Control
  | pinIdentity
  | pinVerified
  | pinNotNow
  | confirmIdentity
  | verifiedNewPip
  | stayInMismatch
  | showContent
  | link (index : Nat)
  | linkTag (index : Nat)
  | copyUrl
  | cancelHandoff
  | closeHandoff
  deriving DecidableEq

inductive Severity
  | good
  | caution
  | alert
  | neutral
  deriving DecidableEq

/-- An element on the screen. -/
inductive Drawn
  | label (text : String)
  | pill (category value : String) (severity : Severity)
  | banner (glyph text : String) (severity : Severity)
  | button (control : Control) (text : String)
  | separator
  deriving DecidableEq

/-- The texts that an element shows. -/
def Drawn.texts : Drawn → List String
  | .label text | .button _ text => [text]
  | .pill category value _ => [category, value]
  | .banner glyph text _ => [glyph, text]
  | .separator => []

/-- The text of the sections of `runs_job`. -/
def runsJob (runs : List InlineRun) : String :=
  runs.foldl
    (fun job run =>
      let text :=
        match run with
        | .text text => text
        | .link text => text
      job ++ isolatePublisherText text)
    ""

/-- The items of a list, from this number on. -/
def drawItems (ordered : Bool) : Nat → List (List InlineRun) → List Drawn
  | _, [] => []
  | i, item :: items =>
      let bullet := if ordered then toString (i + 1) ++ "." else "\u2022"
      .label bullet :: .label (runsJob item) :: drawItems ordered (i + 1) items

/-- The tag behind an external link. -/
def HandoffKind.tag : HandoffKind → String
  | .carrier => " [carrier \u2197]"
  | .citation => " [clearnet \u2197]"

/-- Draw a node, and note the target of an external link that is clicked. -/
def drawNode (clicked : Control → Bool) (index : Nat) (node : SceneNode)
    (handoff : Option Handoff) : List Drawn × Option Handoff :=
  match node with
  | .paragraph runs | .heading runs | .feedback runs => ([.label (runsJob runs)], handoff)
  | .codeBlock text => ([.label (isolatePublisherText text)], handoff)
  | .quote runs attribution =>
      (.label (runsJob runs) ::
        (attribution.map fun attr => Drawn.label ("-- " ++ runsText attr)).toList, handoff)
  | .list ordered items => (drawItems ordered 0 items, handoff)
  | .divider => ([.separator], handoff)
  | .image alt caption =>
      let display :=
        if alt = "" then "[image]" else "[image: " ++ isolatePublisherText alt ++ "]"
      (.label display ::
        (caption.map fun caption => Drawn.label (isolatePublisherText caption)).toList, handoff)
  | .link label link =>
      match externalHandoff link with
      | some target =>
          ([.button (.link index) (runsJob label), .button (.linkTag index) target.kind.tag],
            if clicked (.link index) || clicked (.linkTag index) then some target else handoff)
      | none => ([.label (runsJob label)], handoff)
  | .submitForm label fields submitLabel =>
      (.label (runsJob label) :: fields.map (fun field => Drawn.label (fieldLabel field)) ++
        [.label ("[ " ++ isolatePublisherText submitLabel ++ " ]")], handoff)
  | .note title runs =>
      ((title.map fun title => Drawn.label (isolatePublisherText title)).toList ++
        [.label (runsJob runs)], handoff)

/-- Draw the nodes from this position on. -/
def drawNodes (clicked : Control → Bool) :
    Nat → List SceneNode → Option Handoff → List Drawn × Option Handoff
  | _, [], handoff => ([], handoff)
  | index, node :: nodes, handoff =>
      let (drawn, handoff) := drawNode clicked index node handoff
      let (rest, handoff) := drawNodes clicked (index + 1) nodes handoff
      (drawn ++ rest, handoff)

def drawScene (clicked : Control → Bool) (nodes : List SceneNode) :
    List Drawn × Option Handoff :=
  drawNodes clicked 0 nodes none

/-! ### Requested targets -/

/-- An external link of the scene that was clicked. -/
def ClickedLink (clicked : Control → Bool) (nodes : List SceneNode) (target : Handoff) : Prop :=
  ∃ index label link, nodes[index]? = some (.link label link) ∧
    externalHandoff link = some target ∧
    (clicked (.link index) ∨ clicked (.linkTag index))

theorem drawNode_handoff {clicked : Control → Bool} {index : Nat} {node : SceneNode}
    {handoff : Option Handoff} {target : Handoff}
    (requested : (drawNode clicked index node handoff).2 = some target) :
    handoff = some target ∨ ∃ label link, node = .link label link ∧
      externalHandoff link = some target ∧ (clicked (.link index) ∨ clicked (.linkTag index)) := by
  cases node with
  | link label link =>
      cases external : externalHandoff link with
      | none => exact .inl (by simpa [drawNode, external] using requested)
      | some found =>
          by_cases isClicked : clicked (.link index) ∨ clicked (.linkTag index)
          · refine .inr ⟨label, link, rfl, ?_, isClicked⟩
            simpa [drawNode, external, isClicked] using requested
          · exact .inl (by simpa [drawNode, external, isClicked] using requested)
  | paragraph runs | heading runs | codeBlock text | quote runs attribution
  | list ordered items | divider | image alt caption | submitForm label fields submitLabel
  | feedback runs | note title runs => exact .inl requested

theorem drawNodes_handoff {clicked : Control → Bool} {before nodes : List SceneNode}
    {handoff : Option Handoff} {target : Handoff}
    (requested : (drawNodes clicked before.length nodes handoff).2 = some target) :
    handoff = some target ∨ ClickedLink clicked (before ++ nodes) target := by
  induction nodes generalizing before handoff with
  | nil => exact .inl requested
  | cons node nodes ih =>
      have position : (before ++ [node]).length = before.length + 1 := by simp
      have later := @ih (before ++ [node]) (drawNode clicked before.length node handoff).2
      rw [position, List.append_assoc, List.singleton_append] at later
      rcases later requested with here | elsewhere
      · rcases drawNode_handoff here with before | ⟨label, link, rfl, external, isClicked⟩
        · exact .inl before
        · exact .inr ⟨before.length, label, link, by simp, external, isClicked⟩
      · exact .inr elsewhere

/-- A scene requests only the target of an external link of it that is clicked. -/
theorem drawScene_requested {clicked : Control → Bool} {nodes : List SceneNode}
    {target : Handoff} (requested : (drawScene clicked nodes).2 = some target) :
    ClickedLink clicked nodes target := by
  rcases @drawNodes_handoff clicked [] nodes none target requested with none | isClicked
  · cases none
  · exact isClicked

theorem drawNode_requests {clicked : Control → Bool} {index : Nat} {node : SceneNode}
    {handoff : Option Handoff}
    (requests : handoff.isSome ∨ ∃ label link target, node = .link label link ∧
      externalHandoff link = some target ∧ (clicked (.link index) ∨ clicked (.linkTag index))) :
    (drawNode clicked index node handoff).2.isSome := by
  rcases requests with isSome | ⟨label, link, target, rfl, external, isClicked⟩
  · cases node with
    | link label link =>
        cases external : externalHandoff link with
        | none => simpa [drawNode, external] using isSome
        | some target =>
            by_cases isClicked : clicked (.link index) ∨ clicked (.linkTag index)
            · simp [drawNode, external, isClicked]
            · simpa [drawNode, external, isClicked] using isSome
    | paragraph runs | heading runs | codeBlock text | quote runs attribution
    | list ordered items | divider | image alt caption | submitForm label fields submitLabel
    | feedback runs | note title runs => exact isSome
  · simp [drawNode, external, isClicked]

theorem drawNodes_requests {clicked : Control → Bool} {nodes : List SceneNode} {start : Nat}
    {handoff : Option Handoff}
    (requests : handoff.isSome ∨ ∃ index label link target,
      nodes[index]? = some (.link label link) ∧ externalHandoff link = some target ∧
        (clicked (.link (start + index)) ∨ clicked (.linkTag (start + index)))) :
    (drawNodes clicked start nodes handoff).2.isSome := by
  induction nodes generalizing start handoff with
  | nil =>
      rcases requests with isSome | ⟨index, label, link, target, isNode, -⟩
      · exact isSome
      · simp at isNode
  | cons node nodes ih =>
      refine ih ?_
      rcases requests with isSome | ⟨index, label, link, target, isNode, external, isClicked⟩
      · exact .inl (drawNode_requests (.inl isSome))
      · cases index with
        | zero =>
            obtain rfl : node = .link label link := by simpa using isNode
            exact .inl (drawNode_requests (.inr ⟨label, link, target, rfl, external, isClicked⟩))
        | succ index =>
            refine .inr ⟨index, label, link, target, by simpa using isNode, external, ?_⟩
            rwa [Nat.succ_add_eq_add_succ]

/-- A click on an external link is never lost. -/
theorem drawScene_requests {clicked : Control → Bool} {nodes : List SceneNode}
    {target : Handoff} (isClicked : ClickedLink clicked nodes target) :
    (drawScene clicked nodes).2.isSome := by
  obtain ⟨index, label, link, isNode, external, clicks⟩ := isClicked
  refine drawNodes_requests (.inr ⟨index, label, link, target, isNode, external, ?_⟩)
  rwa [Nat.zero_add]

end EntangledClient
