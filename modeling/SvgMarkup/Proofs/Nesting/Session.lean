import SvgMarkup.Proofs.Rendering.Result

/-!
# Sessions

The containers that have been entered are shared by all who write into them: a caller may enter and
leave containers of its own, ask whether there is room for one more, and have trees rendered inside
them, each of which may succeed or fail.  A session is a sequence of such moves.

The record of a session says which containers are open after it, without any counting: a container
is open if it was entered and none of the later moves out of a container belongs to it.  The trail
lists these containers, the depth is their number, and neither a refusal nor a rendering leaves a
trace: `Session.run_isStack`.
-/

namespace SvgMarkup

/-! ### Moves -/

/-- What a caller can do inside some containers. -/
inductive Move where
  /-- Enters a container with the given name. -/
  | enter (label : String)
  /-- Leaves the innermost container, if there is one, and passes on the failure inside it, if there
  was one. -/
  | leave (failure : Option RenderError)
  /-- Asks whether a container with the given name may be entered. -/
  | check (label : String)
  /-- Renders the children of a container. -/
  | walk (c : Config) (n : Node)

namespace Move

/-- What happens when a move is made. -/
def step : Move → Pass Unit
  | enter label => ⟨fun ν =>
    match ν.enter label with
    | .ok inner => ⟨⟨.ok (), []⟩, inner⟩
    | .error e => ⟨⟨.error (.nestingExceeded e), []⟩, ν⟩⟩
  | leave none => ⟨fun ν => ⟨⟨.ok (), []⟩, ν.leave⟩⟩
  | leave (some e) => ⟨fun ν => ⟨⟨.error e, []⟩, ν.leave⟩⟩
  | check label => ⟨fun ν => ⟨⟨(ν.check label).mapError .nestingExceeded, []⟩, ν⟩⟩
  | walk c n => discard (Node.render c n)

lemma run_step_enter (label : String) (ν : Nesting) :
    (enter label).step.run ν =
      if ν.limit ≤ ν.depth then
        ⟨⟨.error (.nestingExceeded ⟨ν.limit, elementPath [ν.path, label]⟩), []⟩, ν⟩
      else ⟨⟨.ok (), []⟩, ν.inside label⟩ := by
  simp only [step, Nesting.enter_eq]
  by_cases h : ν.limit ≤ ν.depth
  · simp only [h, if_true]
  · simp only [h, if_false]

lemma resultIn_step_check (label : String) (ν : Nesting) :
    (check label).step.resultIn ν =
      if ν.limit ≤ ν.depth then
        .error (.nestingExceeded ⟨ν.limit, elementPath [ν.path, label]⟩)
      else .ok () := by
  simp only [Pass.resultIn, step, Nesting.check]
  split <;> rfl

lemma nesting_step_leave (failure : Option RenderError) (ν : Nesting) :
    ((leave failure).step.run ν).nesting = ν.leave := by
  cases failure <;> rfl

lemma steady_step_check (label : String) : (check label).step.Steady := fun _ => rfl

lemma steady_step_walk (c : Config) (n : Node) : (walk c n).step.Steady :=
  .bind (Node.steady_render c n) fun _ => .pure _

end Move

/-! ### Sessions -/

/-- A move and what came of it. -/
abbrev Record := Move × Except RenderError Unit

/-- The names of the open containers, innermost first, according to a record whose latest entry
comes first.  As many containers as `left` are to be passed over, since they were left later. -/
def openLabels : Nat → List Record → List String
  | _, [] => []
  | left, (.leave _, _) :: earlier => openLabels (left + 1) earlier
  | 0, (.enter label, .ok _) :: earlier => label :: openLabels 0 earlier
  | left + 1, (.enter _, .ok _) :: earlier => openLabels left earlier
  | left, (.enter _, .error _) :: earlier | left, (.check _, _) :: earlier
  | left, (.walk _ _, _) :: earlier => openLabels left earlier

/-- A session: the containers that have been entered, and the record of its moves. -/
structure Session where
  nesting : Nesting
  /-- The moves and what came of them, latest first. -/
  record : List Record

namespace Session

/-- A session before its first move, with the limit that the call stack grants. -/
def start (requested : Int) (stack : CallStack := {}) : Session :=
  ⟨(Nesting.start requested stack).1, []⟩

/-- A session after one more move.  A failure of the move does not end the session. -/
def move (s : Session) (m : Move) : Session :=
  ⟨(m.step.run s.nesting).nesting, (m, m.step.resultIn s.nesting) :: s.record⟩

/-- A session after some more moves. -/
def run (s : Session) (moves : List Move) : Session := moves.foldl move s

/-- The containers of a session form a stack: they are the open ones according to its record, their
number is the depth, and it is within the limit. -/
structure IsStack (limit : Int) (s : Session) : Prop where
  limit_eq : s.nesting.limit = limit
  openLabels_eq : ∀ left, openLabels left s.record = s.nesting.trail.reverse.drop left
  depth_eq : s.nesting.depth = s.nesting.trail.length
  depth_le : (s.nesting.depth : Int) ≤ max 0 limit

namespace IsStack

variable {limit : Int} {s : Session}

lemma start (requested : Int) (stack : CallStack) :
    (Session.start requested stack).IsStack (min requested stack.capacity) where
  limit_eq := CallStack.clamp_fst stack requested
  openLabels_eq left := (List.drop_nil (i := left)).symm
  depth_eq := rfl
  depth_le := Int.le_max_left 0 _

/-- A move that stays inside the containers and opens none keeps the stack. -/
lemma move_of_steady (h : s.IsStack limit) {m : Move}
    (hm : (m.step.run s.nesting).nesting = s.nesting)
    (hopen : ∀ left, openLabels left (s.move m).record = openLabels left s.record) :
    (s.move m).IsStack limit := by
  have hnesting : (s.move m).nesting = s.nesting := hm
  constructor
  · rw [hnesting, h.limit_eq]
  · intro left
    rw [hnesting, hopen, h.openLabels_eq]
  · rw [hnesting, h.depth_eq]
  · rw [hnesting]
    exact h.depth_le

lemma move_enter (h : s.IsStack limit) (label : String) :
    (s.move (.enter label)).IsStack limit := by
  have hrun := Move.run_step_enter label s.nesting
  by_cases hfull : s.nesting.limit ≤ s.nesting.depth
  · -- the refusal leaves no trace
    rw [if_pos hfull] at hrun
    refine h.move_of_steady (by rw [hrun]) fun left => ?_
    simp [Session.move, Pass.resultIn, hrun, openLabels]
  · rw [if_neg hfull] at hrun
    have hnesting : (s.move (.enter label)).nesting = s.nesting.inside label := by
      rw [Session.move, hrun]
    have hrecord : (s.move (.enter label)).record = (.enter label, .ok ()) :: s.record := by
      rw [Session.move, Pass.resultIn, hrun]
    constructor
    · rw [hnesting]
      exact h.limit_eq
    · intro left
      have htrail : (s.nesting.inside label).trail.reverse = label :: s.nesting.trail.reverse :=
        List.reverse_concat
      rw [hnesting, hrecord, htrail]
      cases left with
      | zero => rw [openLabels, h.openLabels_eq, List.drop_zero, List.drop_zero]
      | succ left => rw [openLabels, h.openLabels_eq, List.drop_succ_cons]
    · rw [hnesting, Nesting.inside, List.length_append, h.depth_eq]
      rfl
    · have hlimit := h.limit_eq
      have hdepth : (s.move (.enter label)).nesting.depth = s.nesting.depth + 1 := by
        rw [hnesting]
        rfl
      omega

lemma move_leave (h : s.IsStack limit) (failure : Option RenderError) :
    (s.move (.leave failure)).IsStack limit := by
  have hnesting : (s.move (.leave failure)).nesting = s.nesting.leave :=
    Move.nesting_step_leave failure s.nesting
  constructor
  · rw [hnesting]
    exact h.limit_eq
  · intro left
    have htrail : s.nesting.leave.trail.reverse = s.nesting.trail.reverse.tail :=
      List.tail_reverse.symm
    rw [hnesting, htrail, List.drop_tail, ← h.openLabels_eq]
    rfl
  · rw [hnesting, Nesting.leave, List.length_dropLast, h.depth_eq]
  · have hle := h.depth_le
    have hdepth : (s.move (.leave failure)).nesting.depth = s.nesting.depth - 1 := by
      rw [hnesting]
      rfl
    omega

/-- Each move keeps the stack. -/
lemma move (h : s.IsStack limit) (m : Move) : (s.move m).IsStack limit := by
  cases m with
  | enter label => exact h.move_enter label
  | leave failure => exact h.move_leave failure
  | check label =>
    refine h.move_of_steady (Move.steady_step_check label _) fun _ => ?_
    simp [Session.move, openLabels]
  | walk c n =>
    refine h.move_of_steady (Move.steady_step_walk c n _) fun _ => ?_
    simp [Session.move, openLabels]

/-- Any number of moves keeps the stack. -/
lemma run (h : s.IsStack limit) (moves : List Move) : (s.run moves).IsStack limit := by
  induction moves generalizing s with
  | nil => exact h
  | cons m moves ih => exact ih (h.move m)

end IsStack

lemma record_run (s : Session) (moves : List Move) :
    (s.run moves).record.map Prod.fst = moves.reverse ++ s.record.map Prod.fst := by
  induction moves generalizing s with
  | nil => rfl
  | cons m moves ih =>
    have hrun : s.run (m :: moves) = (s.move m).run moves := rfl
    have hrecord : (s.move m).record.map Prod.fst = m :: s.record.map Prod.fst := rfl
    rw [hrun, ih, hrecord, List.reverse_cons, List.append_assoc]
    rfl

/-- Whatever limit is asked for and whatever moves are made, the trail lists the containers that
are open according to the record of the moves, outermost first; the depth is their number, and it is
at most the limit, or zero if the limit is negative; the path is made up of those names that are not
empty.  Entering a container and asking for room fail exactly if the limit is reached.  A refusal, a
question and a rendering leave the containers as they were, and so does each part of a rendering,
inside whatever containers it takes place. -/
theorem run_isStack (requested : Int) (stack : CallStack) (moves : List Move) :
    let s := (Session.start requested stack).run moves
    s.record.map Prod.fst = moves.reverse ∧
    s.nesting.limit = min requested stack.capacity ∧
    s.nesting.trail = (openLabels 0 s.record).reverse ∧
    s.nesting.depth = s.nesting.trail.length ∧
    (s.nesting.depth : Int) ≤ max 0 s.nesting.limit ∧
    s.nesting.path = String.intercalate " > " (s.nesting.trail.filter (· != "")) ∧
    (∀ label, ((∃ e, (Move.enter label).step.resultIn s.nesting = .error e) ↔
        s.nesting.limit ≤ s.nesting.depth) ∧
      ((∃ e, (Move.check label).step.resultIn s.nesting = .error e) ↔
        s.nesting.limit ≤ s.nesting.depth) ∧
      ((∃ e, (Move.enter label).step.resultIn s.nesting = .error e) →
        (s.move (.enter label)).nesting = s.nesting) ∧
      (s.move (.check label)).nesting = s.nesting) ∧
    ∀ c n, (s.move (.walk c n)).nesting = s.nesting ∧
      (Node.render c n).Steady ∧ (Node.renderNode c n).Steady := by
  intro s
  have h : s.IsStack (min requested stack.capacity) := (IsStack.start requested stack).run moves
  have htrail : openLabels 0 s.record = s.nesting.trail.reverse := by
    rw [h.openLabels_eq, List.drop_zero]
  have henter : ∀ label, (∃ e, (Move.enter label).step.resultIn s.nesting = .error e) ↔
      s.nesting.limit ≤ s.nesting.depth := by
    intro label
    rw [Pass.resultIn, Move.run_step_enter]
    split <;> simp [*]
  have hcheck : ∀ label, (∃ e, (Move.check label).step.resultIn s.nesting = .error e) ↔
      s.nesting.limit ≤ s.nesting.depth := by
    intro label
    rw [Move.resultIn_step_check]
    split <;> simp [*]
  refine ⟨?_, h.limit_eq, ?_, h.depth_eq, ?_, rfl, ?_, ?_⟩
  · rw [record_run]
    exact List.append_nil _
  · rw [htrail, List.reverse_reverse]
  · rw [h.limit_eq]
    exact h.depth_le
  · refine fun label => ⟨henter label, hcheck label, fun hrefused => ?_, rfl⟩
    have hfull := (henter label).mp hrefused
    rw [Session.move, Move.run_step_enter, if_pos hfull]
  · intro c n
    exact ⟨Move.steady_step_walk c n s.nesting, Node.steady_render c n, Node.steady_renderNode c n⟩

/-- Moves of all kinds in a session that may nest two containers: a rendering that is refused inside
a third one, a container that is refused, one that is left because of that, and one that takes the
place of the first. -/
def crowdedMoves : List Move :=
  let deep : Node := .element ⟨"view", [], by decide, List.nodup_nil⟩
    [.element ⟨"cursor", [], by decide, List.nodup_nil⟩ [.text "t"]]
  [.enter "svg", .check "g", .walk .standard (.document [deep]), .enter "g", .enter "rect",
    .leave (some (.nestingExceeded ⟨2, "svg > g > rect"⟩)), .leave none, .enter "defs"]

theorem run_crowdedMoves :
    ((start 2).run crowdedMoves).nesting.limit = 2 ∧
      ((start 2).run crowdedMoves).nesting.trail = ["defs"] ∧
      ((start 2).run crowdedMoves).nesting.depth = 1 ∧
      ¬ ∃ e, (Move.enter "use").step.resultIn ((start 2).run crowdedMoves).nesting = .error e := by
  obtain ⟨-, hlimit, htrail, hdepth, -, -, hroom, -⟩ := run_isStack 2 {} crowdedMoves
  have hopen : openLabels 0 ((start 2).run crowdedMoves).record = ["defs"] := by decide +kernel
  rw [hopen] at htrail
  rw [htrail] at hdepth
  refine ⟨hlimit, htrail, hdepth, fun hrefused => ?_⟩
  have hfull := (hroom "use").1.mp hrefused
  rw [hlimit, hdepth] at hfull
  exact absurd hfull (by decide)

end Session

end SvgMarkup
