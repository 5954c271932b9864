import Mathlib.Data.List.Induction
import TunnelRelay.Http.ContentEncoding

/-!
Which encoding a negotiation chooses.

Of the offers that the entries of a header make, the earliest of the best is chosen. A wildcard
offers the first supported encoding, and it does so whatever other entries say of that encoding by
name: a negotiation does not remember what was refused. So a refused encoding is chosen exactly if
a wildcard is.
-/

namespace TunnelRelay.Http.ContentEncoding

variable {encoding : ContentEncoding} {quality : Int} {entry : Entry}
  {entries : List Entry} {best offer : ContentEncoding × Int}

/-! ### Offers -/

theorem positive?_eq_some_iff {written : Quality} {count : Int} :
    written.positive? = some count ↔ written = .units count ∧ 0 < count := by
  cases written with
  | incomparable => simp [Quality.positive?]
  | units other =>
      rw [Quality.positive?, Option.ite_none_right_eq_some, Option.some.injEq,
        Quality.units.injEq]
      constructor
      · rintro ⟨positive, rfl⟩
        exact ⟨rfl, positive⟩
      · rintro ⟨rfl, positive⟩
        exact ⟨positive, rfl⟩

theorem Entry.offer?_eq_some_iff :
    entry.offer? = some (encoding, quality) ↔
      ofCoding? entry.coding = some encoding ∧
        entry.quality.positive? = some quality := by
  simp only [Entry.offer?, Option.bind_eq_bind, Option.bind_eq_some_iff,
    Option.pure_def, Option.some.injEq, Prod.mk.injEq]
  constructor
  · rintro ⟨_, supported, _, counts, rfl, rfl⟩
    exact ⟨supported, counts⟩
  · rintro ⟨supported, counts⟩
    exact ⟨encoding, supported, quality, counts, rfl, rfl⟩

theorem Entry.offer?_positive (made : entry.offer? = some offer) : 0 < offer.2 :=
  (positive?_eq_some_iff.mp (Entry.offer?_eq_some_iff.mp made).2).2

theorem ofCoding?_eq_gzip_iff {coding : String} :
    ofCoding? coding = some gzip ↔
      coding = "gzip" ∨ coding = "x-gzip" ∨ coding = "*" := by
  unfold ofCoding?
  split
  · simp_all
  · split <;> simp_all

theorem ofCoding?_eq_deflate_iff {coding : String} :
    ofCoding? coding = some deflate ↔ coding = "deflate" := by
  unfold ofCoding?
  split
  · rename_i named
    rcases named with rfl | rfl | rfl <;> decide
  · split <;> simp_all

theorem ofCoding?_ne_identity (coding : String) :
    ofCoding? coding ≠ some identity := by
  unfold ofCoding?
  split
  · exact nofun
  · split <;> exact nofun

/-! ### The best offer -/

def Within (quality : Int) (entries : List Entry) : Prop :=
  ∀ entry ∈ entries, ∀ offer, entry.offer? = some offer → offer.2 ≤ quality

def Below (quality : Int) (entries : List Entry) : Prop :=
  ∀ entry ∈ entries, ∀ offer, entry.offer? = some offer → offer.2 < quality

/-- Of the best offers that the entries make this is the earliest. -/
def FirstBest (entries : List Entry) (offer : ContentEncoding × Int) : Prop :=
  ∃ front entry back, entries = front ++ entry :: back ∧
    entry.offer? = some offer ∧ Below offer.2 front ∧ Within offer.2 back

theorem FirstBest.within (first : FirstBest entries offer) :
    Within offer.2 entries := by
  obtain ⟨front, entry, back, rfl, made, below, within⟩ := first
  refine List.forall_mem_append.mpr ⟨?_, List.forall_mem_cons.mpr ⟨?_, within⟩⟩
  · intro other member given offers
    exact Int.le_of_lt (below other member given offers)
  · intro given offers
    rw [made] at offers
    cases offers
    exact Int.le_refl _

/-- One more entry does not matter unless it offers more. -/
theorem FirstBest.snoc (first : FirstBest entries offer)
    (within : Within offer.2 [entry]) : FirstBest (entries ++ [entry]) offer := by
  obtain ⟨front, other, back, rfl, made, below, behind⟩ := first
  exact ⟨front, other, back ++ [entry], by simp, made, below,
    List.forall_mem_append.mpr ⟨behind, within⟩⟩

theorem foldl_better (entries : List Entry) :
    (entries.foldl better (identity, 0) = (identity, 0) ∧ Within 0 entries) ∨
      FirstBest entries (entries.foldl better (identity, 0)) := by
  induction entries using List.reverseRecOn with
  | nil => exact Or.inl ⟨rfl, nofun⟩
  | append_singleton entries entry ih =>
      rw [List.foldl_append, List.foldl_cons, List.foldl_nil]
      generalize entries.foldl better (identity, 0) = best at ih ⊢
      have bounded : Within best.2 entries := by
        rcases ih with ⟨rfl, none⟩ | first
        · exact none
        · exact first.within
      cases made : entry.offer? with
      | none =>
          have silent : Within best.2 [entry] := by simp [Within, made]
          rw [better, made]
          rcases ih with ⟨rfl, none⟩ | first
          · exact Or.inl ⟨rfl, List.forall_mem_append.mpr ⟨none, silent⟩⟩
          · exact Or.inr (first.snoc silent)
      | some offer =>
          rw [better, made]
          simp only
          split
          · rename_i more
            refine Or.inr ⟨entries, entry, [], rfl, made, ?_, nofun⟩
            intro other member given offers
            exact Int.lt_of_le_of_lt (bounded other member given offers) more
          · rename_i less
            have silent : Within best.2 [entry] := by
              refine List.forall_mem_singleton.mpr fun given offers => ?_
              rw [made] at offers
              cases offers
              exact Int.not_lt.mp less
            rcases ih with ⟨rfl, -⟩ | first
            · exact absurd (Entry.offer?_positive made) less
            · exact Or.inr (first.snoc silent)

theorem choose_cases (entries : List Entry) :
    (choose entries = identity ∧ ∀ entry ∈ entries, entry.offer? = none) ∨
      ∃ quality, FirstBest entries (choose entries, quality) := by
  rcases foldl_better entries with ⟨nothing, bounded⟩ | first
  · refine Or.inl ⟨congrArg Prod.fst nothing, ?_⟩
    intro entry member
    cases made : entry.offer? with
    | none => rfl
    | some offer =>
        have some_ := Entry.offer?_positive made
        have none : offer.2 ≤ 0 := bounded entry member offer made
        omega
  · exact Or.inr ⟨_, first⟩

/-- An encoding is chosen exactly if some entry offers it and no other encoding
is offered for more, nor for as much earlier. -/
theorem choose_eq_iff (supported : encoding ≠ identity) :
    choose entries = encoding ↔
      ∃ front entry back quality, entries = front ++ entry :: back ∧
        entry.offer? = some (encoding, quality) ∧
        (∀ other ∈ front, ∀ offer, other.offer? = some offer →
          offer.1 ≠ encoding → offer.2 < quality) ∧
        ∀ other ∈ back, ∀ offer, other.offer? = some offer →
          offer.1 ≠ encoding → offer.2 ≤ quality := by
  constructor
  · rintro rfl
    rcases choose_cases entries with ⟨none, -⟩ | ⟨quality, first⟩
    · exact absurd none supported
    · obtain ⟨front, entry, back, split, made, below, within⟩ := first
      exact ⟨front, entry, back, quality, split, made,
        fun other member offer given _ => below other member offer given,
        fun other member offer given _ => within other member offer given⟩
  · rintro ⟨front, entry, back, quality, split, made, below, within⟩
    have member : entry ∈ entries := by simp [split]
    rcases choose_cases entries with ⟨-, none⟩ | ⟨most, first⟩
    · rw [none entry member] at made
      cases made
    · generalize choose entries = chosen at first ⊢
      by_cases same : chosen = encoding
      · exact same
      · -- then what is chosen is offered before this entry or behind it
        obtain ⟨early, best, late, order, given, worse, bounded⟩ := first
        rw [split] at order
        rcases List.append_eq_append_iff.mp order with
          ⟨between, rfl, tails⟩ | ⟨between, rfl, tails⟩
        · cases between with
          | nil =>
              obtain ⟨rfl, -⟩ := List.cons.inj tails
              rw [made] at given
              cases given
              exact absurd rfl same
          | cons _ between =>
              obtain ⟨rfl, rfl⟩ := List.cons.inj tails
              have less : quality < most := worse entry (by simp) _ made
              have enough : most ≤ quality := within best (by simp) _ given same
              omega
        · cases between with
          | nil =>
              obtain ⟨rfl, -⟩ := List.cons.inj tails
              rw [made] at given
              cases given
              exact absurd rfl same
          | cons _ between =>
              obtain ⟨rfl, rfl⟩ := List.cons.inj tails
              have less : most < quality := below best (by simp) _ given same
              have enough : quality ≤ most := bounded entry (by simp) _ made
              omega

/-! ### Refusals -/

def entriesOf (accept : String) : List Entry :=
  (Text.splitOn ',' accept.toList).map Entry.parse

theorem rivals_iff {holds : Int → Prop} (low : ∀ rival ≤ 0, holds rival) :
    (∀ entry ∈ entries, ∀ offer, entry.offer? = some offer →
      offer.1 ≠ gzip → holds offer.2) ↔
    ∀ entry ∈ entries, entry.coding = "deflate" →
      ∀ rival, entry.quality = .units rival → holds rival := by
  constructor
  · intro offers entry member named rival written
    by_cases positive : 0 < rival
    · have made : entry.offer? = some (deflate, rival) :=
        Entry.offer?_eq_some_iff.mpr ⟨ofCoding?_eq_deflate_iff.mpr named,
          positive?_eq_some_iff.mpr ⟨written, positive⟩⟩
      exact offers entry member _ made nofun
    · exact low rival (Int.not_lt.mp positive)
  · rintro written entry member ⟨encoding, quality⟩ made differs
    obtain ⟨supported, counts⟩ := Entry.offer?_eq_some_iff.mp made
    cases encoding with
    | gzip => exact absurd rfl differs
    | deflate =>
        exact written entry member (ofCoding?_eq_deflate_iff.mp supported)
          quality (positive?_eq_some_iff.mp counts).1
    | identity => exact absurd supported (ofCoding?_ne_identity _)

/-- If no entry that names gzip gives it a quality above zero, it is chosen exactly
if a wildcard offers it, and no deflate is offered for more, nor for as much
earlier: the refusal does not bind the wildcard. If no entry gives deflate a
quality above zero, it is not chosen whatever else the header says. -/
theorem refused_unless_wildcard (accept : String) :
    ((∀ entry ∈ entriesOf accept,
        entry.coding = "gzip" ∨ entry.coding = "x-gzip" →
          entry.quality.positive? = none) →
      (negotiate (some accept) = gzip ↔
        ∃ front star back quality, entriesOf accept = front ++ star :: back ∧
          star.coding = "*" ∧ star.quality = .units quality ∧ 0 < quality ∧
          (∀ entry ∈ front, entry.coding = "deflate" →
            ∀ rival, entry.quality = .units rival → rival < quality) ∧
          ∀ entry ∈ back, entry.coding = "deflate" →
            ∀ rival, entry.quality = .units rival → rival ≤ quality)) ∧
    ((∀ entry ∈ entriesOf accept, entry.coding = "deflate" →
        entry.quality.positive? = none) →
      negotiate (some accept) ≠ deflate) := by
  have chooses : negotiate (some accept) = choose (entriesOf accept) := rfl
  rw [chooses]
  constructor
  · intro refused
    rw [choose_eq_iff (by decide)]
    constructor
    · rintro ⟨front, star, back, quality, split, made, below, within⟩
      obtain ⟨supported, counts⟩ := Entry.offer?_eq_some_iff.mp made
      obtain ⟨units, positive⟩ := positive?_eq_some_iff.mp counts
      -- the refusal leaves the wildcard as the only entry that can offer gzip
      have unnamed : ¬ (star.coding = "gzip" ∨ star.coding = "x-gzip") := by
        intro named
        rw [refused star (by simp [split]) named] at counts
        cases counts
      have wildcard : star.coding = "*" := by
        rw [ofCoding?_eq_gzip_iff, ← or_assoc] at supported
        exact supported.resolve_left unnamed
      exact ⟨front, star, back, quality, split, wildcard, units, positive,
        (rivals_iff fun rival low => Int.lt_of_le_of_lt low positive).mp below,
        (rivals_iff fun rival low =>
          Int.le_trans low (Int.le_of_lt positive)).mp within⟩
    · rintro ⟨front, star, back, quality, split, wildcard, units, positive,
        below, within⟩
      have made : star.offer? = some (gzip, quality) :=
        Entry.offer?_eq_some_iff.mpr
          ⟨ofCoding?_eq_gzip_iff.mpr (Or.inr (Or.inr wildcard)),
            positive?_eq_some_iff.mpr ⟨units, positive⟩⟩
      exact ⟨front, star, back, quality, split, made,
        (rivals_iff fun rival low => Int.lt_of_le_of_lt low positive).mpr below,
        (rivals_iff fun rival low =>
          Int.le_trans low (Int.le_of_lt positive)).mpr within⟩
  · intro refused chosen
    obtain ⟨front, entry, back, quality, split, made, -⟩ :=
      (choose_eq_iff (by decide)).mp chosen
    obtain ⟨supported, counts⟩ := Entry.offer?_eq_some_iff.mp made
    rw [refused entry (by simp [split])
      (ofCoding?_eq_deflate_iff.mp supported)] at counts
    cases counts

/-- A wildcard brings back what was refused by name. -/
theorem refused_unless_wildcard_named :
    let accept := "gzip;q=0, *"
    entriesOf accept = [⟨"gzip", .units 0⟩, ⟨"*", .one⟩] ∧
      (∀ entry ∈ entriesOf accept,
        entry.coding = "gzip" ∨ entry.coding = "x-gzip" →
          entry.quality.positive? = none) ∧
      negotiate (some accept) = gzip := by
  intro accept
  have entries : entriesOf accept = [⟨"gzip", .units 0⟩, ⟨"*", .one⟩] := by
    decide +kernel
  have refused : ∀ entry ∈ entriesOf accept,
      entry.coding = "gzip" ∨ entry.coding = "x-gzip" →
        entry.quality.positive? = none := by
    rw [entries]
    decide
  refine ⟨entries, refused, ((refused_unless_wildcard accept).1 refused).mpr ?_⟩
  refine ⟨[⟨"gzip", .units 0⟩], ⟨"*", .one⟩, [], Quality.scale, entries, rfl, rfl,
    by decide, ?_, nofun⟩
  intro entry member named
  rw [List.mem_singleton.mp member] at named
  exact absurd named (by decide)

end TunnelRelay.Http.ContentEncoding
