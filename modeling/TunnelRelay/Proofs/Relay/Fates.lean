import Mathlib.Data.List.Induction
import Mathlib.Data.List.Nodup
import TunnelRelay.Proofs.Relay.Roll

/-!
What marks say of the tunnels.

The fate of a tunnel is the status with which it is closed first. As long as tunnels are opened
once, and closed only after that, the roll follows from the fates alone: a tunnel is listed as long
as it has none, and the counters are the numbers of tunnels with each kind of fate.
-/

namespace TunnelRelay

abbrev Marks := List Mark

namespace Mark

def opened? : Mark → Option Passage
  | .opens passage => some passage
  | .closes _ _ | .shuts _ _ _ => none

def closing? (passage : Passage) : Mark → Option Status
  | .closes other status => if other = passage then some status else none
  | .opens _ | .shuts _ _ _ => none

def shutting? (session : Nat) : Mark → Option (Part × Status)
  | .shuts other part status =>
      if other = session then some (part, status) else none
  | .opens _ | .closes _ _ => none

end Mark

namespace Marks

def passages (marks : Marks) : List Passage :=
  marks.filterMap Mark.opened?

/-- The status with which a tunnel was closed first. -/
def fate (marks : Marks) (passage : Passage) : Option Status :=
  marks.findSome? (Mark.closing? passage)

def shuts (marks : Marks) (session : Nat) : List (Part × Status) :=
  marks.filterMap (Mark.shutting? session)

theorem passages_append (marks more : Marks) :
    passages (marks ++ more) = marks.passages ++ more.passages :=
  List.filterMap_append

theorem shuts_append (marks more : Marks) (session : Nat) :
    shuts (marks ++ more) session =
      marks.shuts session ++ more.shuts session :=
  List.filterMap_append

theorem fate_append (marks more : Marks) (passage : Passage) :
    fate (marks ++ more) passage =
      (marks.fate passage).or (more.fate passage) :=
  List.findSome?_append

theorem fate_eq_none {marks : Marks} {passage : Passage} :
    marks.fate passage = none ↔
      ∀ status, Mark.closes passage status ∉ marks := by
  unfold fate
  rw [List.findSome?_eq_none_iff]
  constructor
  · intro silent status member
    have closed := silent _ member
    simp [Mark.closing?] at closed
  · intro never mark member
    cases mark with
    | opens other => rfl
    | shuts session part status => rfl
    | closes other status =>
        by_cases same : other = passage
        · subst same
          exact absurd member (never status)
        · exact if_neg same

/-- Tunnels are opened once and closed only after that, and a session is
counted as closed once. -/
structure Orderly (marks : Marks) : Prop where
  once : marks.passages.Nodup
  behind : ∀ (before : Marks) passage status later,
    marks = before ++ .closes passage status :: later →
    passage ∈ before.passages
  single : ∀ (before : Marks) number status later,
    marks = before ++ .closes (.session number) status :: later →
    before.fate (.session number) = none

theorem Orderly.front {marks more : Marks}
    (orderly : Orderly (marks ++ more)) : Orderly marks where
  once := by
    have once := orderly.once
    rw [passages_append] at once
    exact once.of_append_left
  behind := by
    rintro before passage status later rfl
    apply orderly.behind before passage status (later ++ more)
    rw [List.append_assoc]
    rfl
  single := by
    rintro before number status later rfl
    apply orderly.single before number status (later ++ more)
    rw [List.append_assoc]
    rfl

theorem Orderly.snoc {marks : Marks} (orderly : marks.Orderly) {mark : Mark}
    (fresh : ∀ passage, mark = .opens passage → passage ∉ marks.passages)
    (known : ∀ passage status, mark = .closes passage status →
      passage ∈ marks.passages)
    (first : ∀ number status, mark = .closes (.session number) status →
      marks.fate (.session number) = none) :
    Orderly (marks ++ [mark]) where
  once := by
    rw [passages_append]
    cases mark with
    | opens passage =>
        apply orderly.once.append (List.nodup_singleton passage)
        intro other member last
        cases List.mem_singleton.mp last
        exact fresh _ rfl member
    | closes | shuts =>
        change (marks.passages ++ []).Nodup
        rw [List.append_nil]
        exact orderly.once
  behind := by
    intro before passage status later split
    rcases List.eq_nil_or_concat later with rfl | ⟨front, last, rfl⟩
    · obtain ⟨rfl, same⟩ := List.append_inj' split rfl
      exact known passage status (List.singleton_inj.mp same)
    · rw [List.concat_eq_append, ← List.cons_append, ← List.append_assoc]
        at split
      exact orderly.behind before passage status front
        (List.append_inj' split rfl).1
  single := by
    intro before number status later split
    rcases List.eq_nil_or_concat later with rfl | ⟨front, last, rfl⟩
    · obtain ⟨rfl, same⟩ := List.append_inj' split rfl
      exact first number status (List.singleton_inj.mp same)
    · rw [List.concat_eq_append, ← List.cons_append, ← List.append_assoc]
        at split
      exact orderly.single before number status front
        (List.append_inj' split rfl).1

theorem Orderly.closings {marks : Marks} (orderly : marks.Orderly)
    {more : Marks} (closing : ∀ mark ∈ more, ∃ uuid status,
      mark = .closes (.registered uuid) status ∧
        .registered uuid ∈ marks.passages) :
    Orderly (marks ++ more) := by
  induction more using List.reverseRecOn with
  | nil => exact (List.append_nil marks).symm ▸ orderly
  | append_singleton more last ih =>
      have before := ih fun mark member =>
        closing mark (List.mem_append_left _ member)
      obtain ⟨uuid, status, rfl, opened⟩ :=
        closing last (List.mem_append_right _ (List.mem_singleton.mpr rfl))
      rw [← List.append_assoc]
      apply before.snoc
      · exact nofun
      · rintro passage given same
        cases same
        rw [passages_append]
        exact List.mem_append_left _ opened
      · exact nofun

end Marks

/-! ### Counters -/

/-- Of each of some tunnels, the status with which it has ended, if it has. -/
abbrev Fates := List (Option Status)

namespace Fates

def running (fates : Fates) : Nat :=
  fates.countP (·.isNone)

def endedAs (fates : Fates) (kind : ClosedAs) : Nat :=
  fates.countP (·.map ClosedAs.ofStatus == some kind)

def counters (fates : Fates) : Metrics where
  active := .ofNat fates.running
  opened := .ofNat fates.length
  closedNormal := .ofNat (fates.endedAs .normal)
  closedClientError := .ofNat (fates.endedAs .clientError)
  closedError := .ofNat (fates.endedAs .error)

theorem counters_opened (fates : Fates) :
    counters (fates ++ [none]) = fates.counters.tunnelOpened := by
  simp [counters, running, endedAs, Metrics.tunnelOpened]

theorem counters_closed (front back : Fates) (status : Status) :
    counters (front ++ some status :: back) =
      (counters (front ++ none :: back)).tunnelClosed status := by
  have active : ∀ before after : UInt64,
      before + (after + 1) - 1 = before + after := by
    intro before after
    rw [← UInt64.add_assoc, UInt64.add_sub_cancel]
  unfold counters Metrics.tunnelClosed running endedAs
  cases kind : ClosedAs.ofStatus status <;>
    simp [kind, active, UInt64.add_assoc]

theorem length_eq (fates : Fates) :
    fates.length = fates.running + fates.endedAs .normal +
      fates.endedAs .clientError + fates.endedAs .error := by
  unfold running endedAs
  induction fates with
  | nil => rfl
  | cons fate fates ih =>
      cases fate with
      | none =>
          simp only [List.length_cons, List.countP_cons, ih]
          simp
          omega
      | some status =>
          cases kind : ClosedAs.ofStatus status <;>
            simp only [List.length_cons, List.countP_cons, ih, Option.map_some,
              kind] <;> simp <;> omega

end Fates

/-! ### The roll -/

namespace Roll

def entryOf (fate : Passage → Option Status) : Passage → Option (Uuid × Bool)
  | .registered uuid => some (uuid, (fate (.registered uuid)).isNone)
  | .session _ => none

/-- The roll that follows from fates. -/
def ofFates (passages : List Passage) (fate : Passage → Option Status) :
    Roll where
  entries := passages.filterMap (entryOf fate)
  counters := Fates.counters (passages.map fate)

theorem listed_iff {passages : List Passage} {fate : Passage → Option Status}
    {uuid : Uuid} :
    (uuid, true) ∈ (ofFates passages fate).entries ↔
      .registered uuid ∈ passages ∧ fate (.registered uuid) = none := by
  unfold ofFates
  rw [List.mem_filterMap]
  constructor
  · rintro ⟨passage, member, entry⟩
    cases passage with
    | session number => cases entry
    | registered other =>
        simp only [entryOf, Option.some.injEq, Prod.mk.injEq,
          Option.isNone_iff_eq_none] at entry
        obtain ⟨rfl, running⟩ := entry
        exact ⟨member, running⟩
  · rintro ⟨member, running⟩
    refine ⟨_, member, ?_⟩
    rw [entryOf, running]
    rfl

theorem entries_congr {passages : List Passage}
    {fate other : Passage → Option Status}
    (same : ∀ passage ∈ passages, other passage = fate passage) :
    passages.filterMap (entryOf other) =
      passages.filterMap (entryOf fate) := by
  apply List.filterMap_congr
  intro passage member
  cases passage with
  | registered uuid => simp only [entryOf, same _ member]
  | session number => rfl

/-! ### One more mark -/

section Steps

variable {passages : List Passage} {fate : Passage → Option Status}

theorem opens_ofFates {passage : Passage} (fresh : passage ∉ passages)
    (running : fate passage = none) :
    (ofFates passages fate).mark (.opens passage) =
      ofFates (passages ++ [passage]) fate := by
  have counters : (ofFates passages fate).counters.tunnelOpened =
      (ofFates (passages ++ [passage]) fate).counters := by
    simp only [ofFates, List.map_append, List.map_cons, List.map_nil, running]
    exact (Fates.counters_opened _).symm
  cases passage with
  | session number =>
      unfold mark
      simp only [counters]
      simp [ofFates, entryOf]
  | registered uuid =>
      unfold mark enrol
      rw [counters]
      simp only [ofFates, List.filterMap_append, List.filterMap_cons,
        List.filterMap_nil, entryOf, running, Option.isNone_none]
      congr 2
      rw [List.map_congr_left (g := id), List.map_id]
      intro entry member
      apply if_neg
      rintro rfl
      exact fresh (listed_iff.mp member).1

theorem strike_at {roll : Roll} {front back : List (Uuid × Bool)} {uuid : Uuid}
    (entries : roll.entries = front ++ (uuid, true) :: back)
    (first : (uuid, true) ∉ front) (status : Status) :
    roll.strike uuid status =
      ⟨front ++ (uuid, false) :: back, roll.counters.tunnelClosed status⟩ := by
  have found : roll.entries.findIdx? (· == (uuid, true)) =
      some front.length := by
    rw [entries, List.findIdx?_append, List.findIdx?_eq_none_iff.mpr]
    · simp [List.findIdx?_cons]
    · intro entry member
      apply beq_false_of_ne
      rintro rfl
      exact first member
  unfold strike
  rw [found, entries]
  simp only [Roll.mk.injEq, and_true]
  rw [List.modify_eq_take_cons_drop (by simp)]
  simp

theorem strike_closed {uuid : Uuid}
    (closed : fate (.registered uuid) ≠ none) (status : Status) :
    (ofFates passages fate).strike uuid status = ofFates passages fate := by
  unfold strike
  rw [List.findIdx?_eq_none_iff.mpr]
  intro entry member
  apply beq_false_of_ne
  rintro rfl
  exact closed (listed_iff.mp member).2

theorem closes_ofFates {passage : Passage} {later : Passage → Option Status}
    {status : Status} (once : passages.Nodup) (opened : passage ∈ passages)
    (running : fate passage = none) (closed : later passage = some status)
    (others : ∀ other, other ≠ passage → later other = fate other) :
    (ofFates passages fate).mark (.closes passage status) =
      ofFates passages later := by
  obtain ⟨front, back, rfl⟩ := List.append_of_mem opened
  obtain ⟨-, ⟨behind, -⟩, before⟩ := by
    rw [List.nodup_append, List.nodup_cons] at once
    exact once
  have early : ∀ other ∈ front, later other = fate other := by
    intro other member
    apply others
    exact before other member passage List.mem_cons_self
  have late : ∀ other ∈ back, later other = fate other := by
    intro other member
    apply others
    rintro rfl
    exact behind member
  have counters : (ofFates (front ++ passage :: back) fate).counters.tunnelClosed
      status = (ofFates (front ++ passage :: back) later).counters := by
    simp only [ofFates, List.map_append, List.map_cons, running, closed]
    rw [← Fates.counters_closed, List.map_congr_left early,
      List.map_congr_left late]
  cases passage with
  | session number =>
      unfold mark
      simp only [counters]
      simp only [ofFates, List.filterMap_append, List.filterMap_cons, entryOf,
        entries_congr early, entries_congr late]
  | registered uuid =>
      have first : (uuid, true) ∉ front.filterMap (entryOf fate) := by
        intro member
        exact before _ (listed_iff.mp member).1 _ List.mem_cons_self rfl
      have entries :
          (ofFates (front ++ .registered uuid :: back) fate).entries =
            front.filterMap (entryOf fate) ++
              (uuid, true) :: back.filterMap (entryOf fate) := by
        simp only [ofFates, List.filterMap_append, List.filterMap_cons, entryOf,
          running]
        rfl
      unfold mark
      simp only
      rw [strike_at entries first, counters]
      simp only [ofFates, List.filterMap_append, List.filterMap_cons, entryOf,
        closed, entries_congr early, entries_congr late]
      rfl

end Steps

end Roll

/-! ### All marks -/

namespace Marks

def roll (marks : Marks) : Roll :=
  .ofFates marks.passages marks.fate

variable {marks : Marks}

theorem fate_other {mark : Mark} {passage : Passage}
    (other : ∀ status, mark ≠ .closes passage status) :
    fate (marks ++ [mark]) passage = marks.fate passage := by
  have silent : fate [mark] passage = none := by
    rw [fate_eq_none]
    intro status member
    exact other status (List.mem_singleton.mp member).symm
  rw [fate_append, silent, Option.or_none]

theorem fate_closes (passage : Passage) (status : Status) :
    fate (marks ++ [.closes passage status]) passage =
      (marks.fate passage).or (some status) := by
  rw [fate_append]
  simp [fate, Mark.closing?]

theorem Orderly.opens {passage : Passage}
    (orderly : Orderly (marks ++ [.opens passage])) :
    marks.roll.mark (.opens passage) = roll (marks ++ [.opens passage]) := by
  have same : fate (marks ++ [.opens passage]) = marks.fate :=
    funext fun other => fate_other (by simp)
  have once := orderly.once
  rw [passages_append] at once
  have fresh : passage ∉ marks.passages := by
    intro member
    exact (List.nodup_append.mp once).2.2 _ member _
      (List.mem_singleton.mpr rfl) rfl
  have running : marks.fate passage = none := by
    rw [fate_eq_none]
    intro status closed
    obtain ⟨front, back, rfl⟩ := List.append_of_mem closed
    apply fresh
    rw [passages_append]
    exact List.mem_append_left _
      (orderly.front.behind front passage status back rfl)
  rw [roll, roll, passages_append, same]
  exact Roll.opens_ofFates fresh running

theorem Orderly.closes {passage : Passage} {status : Status}
    (orderly : Orderly (marks ++ [.closes passage status])) :
    marks.roll.mark (.closes passage status) =
      roll (marks ++ [.closes passage status]) := by
  have opened : passages (marks ++ [.closes passage status]) =
      marks.passages := by
    rw [passages_append]
    exact List.append_nil _
  have others : ∀ other, other ≠ passage →
      fate (marks ++ [.closes passage status]) other = marks.fate other := by
    intro other differs
    apply fate_other
    simp [Ne.symm differs]
  rw [roll, roll, opened]
  cases running : marks.fate passage with
  | none =>
      apply Roll.closes_ofFates orderly.front.once
        (orderly.behind marks passage status [] rfl) running _ others
      rw [fate_closes, running]
      rfl
  | some earlier =>
      -- only HTTP tunnels are closed again
      cases passage with
      | session number =>
          rw [orderly.single marks number status [] rfl] at running
          cases running
      | registered uuid =>
          have same : fate (marks ++ [.closes (.registered uuid) status]) =
              marks.fate := by
            funext other
            by_cases equal : other = .registered uuid
            · rw [equal, fate_closes, running]
              rfl
            · exact others other equal
          rw [same]
          exact Roll.strike_closed (by rw [running]; exact nofun) status

/-- Orderly marks lead to the roll that follows from the fates. -/
theorem Orderly.roll_eq {marks : Marks} (orderly : marks.Orderly) :
    Roll.markAll {} marks = marks.roll := by
  induction marks using List.reverseRecOn with
  | nil => rfl
  | append_singleton marks last ih =>
      rw [Roll.markAll_append, ih orderly.front]
      cases last with
      | opens passage => exact orderly.opens
      | closes passage status => exact orderly.closes
      | shuts session part status =>
          have same : fate (marks ++ [.shuts session part status]) =
              fate marks := funext fun passage => fate_other (by simp)
          rw [roll, roll, passages_append, same]
          exact congrArg (Roll.ofFates · _) (List.append_nil _).symm

theorem Orderly.mem_uuids {marks : Marks} (orderly : marks.Orderly)
    {uuid : Uuid} :
    uuid ∈ (Roll.markAll {} marks).uuids ↔
      .registered uuid ∈ marks.passages := by
  rw [orderly.roll_eq, roll, Roll.uuids, Roll.ofFates, List.mem_map]
  constructor
  · rintro ⟨entry, member, rfl⟩
    obtain ⟨passage, opened, same⟩ := List.mem_filterMap.mp member
    cases passage with
    | session number => cases same
    | registered other =>
        cases same
        exact opened
  · intro opened
    exact ⟨_, List.mem_filterMap.mpr ⟨_, opened, rfl⟩, rfl⟩

end Marks

end TunnelRelay
