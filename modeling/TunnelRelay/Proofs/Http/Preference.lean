import TunnelRelay.Proofs.Http.Negotiation

/-!
Which entry of a header decides.

The value of an `Accept-Encoding` header is cut at its commas; each piece names a coding, and its
parameters may give a quality. Of the entries that count, the earliest of the best decides. So what
is put behind them decides nothing unless it is better, and an entry that does not count decides
nothing wherever it stands.
-/

namespace TunnelRelay.Http.ContentEncoding

/-! ### What a header says -/

/-- The quality that the parameters of an entry give it: that of the first one that starts with
`q=`. -/
inductive Weighs : List (List Char) → Quality → Prop
  | unsaid : Weighs [] .one
  | other {parameter parameters quality}
      (elsewhere : ∀ value, Text.trim parameter ≠ 'q' :: '=' :: value)
      (later : Weighs parameters quality) :
      Weighs (parameter :: parameters) quality
  | number {parameter value quality} (parameters : List (List Char))
      (here : Text.trim parameter = 'q' :: '=' :: value)
      (read : Quality.parse? (Text.trim value) = some quality) :
      Weighs (parameter :: parameters) quality
  | noNumber {parameter value} (parameters : List (List Char))
      (here : Text.trim parameter = 'q' :: '=' :: value)
      (unread : Quality.parse? (Text.trim value) = none) :
      Weighs (parameter :: parameters) .one

def Entry.SaidBy (entry : Entry) (text : List Char) : Prop :=
  ∃ coding parameters, text = [';'].intercalate (coding :: parameters) ∧
    (∀ piece ∈ coding :: parameters, ';' ∉ piece) ∧
    entry.coding = String.ofList (Text.lower (Text.trim coding)) ∧
    Weighs parameters entry.quality

/-- The value of a header lists these entries, with commas between them. -/
def Lists (accept : String) (entries : List Entry) : Prop :=
  ∃ texts, texts ≠ [] ∧ accept.toList = [','].intercalate texts ∧
    (∀ text ∈ texts, ',' ∉ text) ∧ List.Forall₂ Entry.SaidBy entries texts

inductive Names : String → ContentEncoding → Prop
  | gzip : Names "gzip" gzip
  | xGzip : Names "x-gzip" gzip
  | wildcard : Names "*" gzip
  | deflate : Names "deflate" deflate

/-- An entry that counts. -/
structure Entry.Offers (entry : Entry) (encoding : ContentEncoding)
    (quality : Int) : Prop where
  names : Names entry.coding encoding
  weighs : entry.quality = .units quality
  positive : 0 < quality

/-- An entry that does not count: it names no supported encoding, or its quality
cannot be compared or is not above zero. -/
def Entry.Ignored (entry : Entry) : Prop :=
  (∀ encoding, ¬ Names entry.coding encoding) ∨
    entry.quality = .incomparable ∨ ∃ count ≤ 0, entry.quality = .units count

variable {entry : Entry} {entries added : List Entry} {coding : String}
  {encoding : ContentEncoding} {quality : Int} {best : ContentEncoding × Int}

/-! ### Reading a header -/

theorem weighs_parameters (parameters : List (List Char)) :
    Weighs parameters
      (((parameters.findSome? fun parameter =>
          Text.after? ['q', '='] (Text.trim parameter)).bind
        fun value => Quality.parse? (Text.trim value)).getD .one) := by
  induction parameters with
  | nil => exact .unsaid
  | cons parameter parameters ih =>
      rw [List.findSome?_cons]
      cases here : Text.after? ['q', '='] (Text.trim parameter) with
      | none =>
          refine .other (fun value starts => ?_) ih
          rw [Text.after?_eq_some.mpr starts] at here
          cases here
      | some value =>
          have starts := Text.after?_eq_some.mp here
          simp only [Option.bind_some]
          cases read : Quality.parse? (Text.trim value) with
          | none => exact .noNumber parameters starts read
          | some quality => exact .number parameters starts read

theorem Entry.parse_saidBy (text : List Char) :
    (Entry.parse text).SaidBy text := by
  unfold Entry.parse
  cases cut : Text.splitOn ';' text with
  | nil => exact absurd cut (Text.splitOn_ne_nil ';' text)
  | cons coding parameters =>
      refine ⟨coding, parameters, ?_, ?_, rfl, weighs_parameters parameters⟩
      · rw [← cut, Text.intercalate_splitOn]
      · intro piece member
        rw [← cut] at member
        exact Text.not_mem_of_mem_splitOn member

theorem lists_entriesOf (accept : String) : Lists accept (entriesOf accept) := by
  refine ⟨Text.splitOn ',' accept.toList, Text.splitOn_ne_nil _ _,
    (Text.intercalate_splitOn _ _).symm,
    fun _ member => Text.not_mem_of_mem_splitOn member, ?_⟩
  unfold entriesOf
  induction Text.splitOn ',' accept.toList with
  | nil => exact .nil
  | cons text texts ih => exact .cons (Entry.parse_saidBy text) ih

theorem entriesOf_append (front back : String) :
    entriesOf (front ++ "," ++ back) = entriesOf front ++ entriesOf back := by
  have comma : (front ++ "," ++ back).toList =
      front.toList ++ ',' :: back.toList := by simp
  rw [entriesOf, comma, Text.splitOn_append, List.map_append]
  rfl

theorem negotiate_intercalate (values : List String) :
    negotiate (some (",".intercalate values)) =
      choose (values.flatMap entriesOf) := by
  cases values with
  | nil => decide +kernel
  | cons value values =>
      have together : entriesOf (",".intercalate (value :: values)) =
          (value :: values).flatMap entriesOf := by
        induction values generalizing value with
        | nil => simp
        | cons next values ih =>
            rw [String.intercalate_cons_cons, entriesOf_append, ih]
            rfl
      exact congrArg choose together

/-! ### Entries that count -/

theorem names_iff : Names coding encoding ↔ ofCoding? coding = some encoding := by
  constructor
  · rintro (_ | _ | _ | _) <;> decide
  · intro supported
    cases encoding with
    | gzip =>
        rcases ofCoding?_eq_gzip_iff.mp supported with rfl | rfl | rfl
        · exact .gzip
        · exact .xGzip
        · exact .wildcard
    | deflate =>
        rw [ofCoding?_eq_deflate_iff.mp supported]
        exact .deflate
    | identity => exact absurd supported (ofCoding?_ne_identity coding)

theorem Entry.offers_iff :
    entry.Offers encoding quality ↔ entry.offer? = some (encoding, quality) := by
  rw [Entry.offer?_eq_some_iff, positive?_eq_some_iff, ← names_iff]
  constructor
  · rintro ⟨names, weighs, positive⟩
    exact ⟨names, weighs, positive⟩
  · rintro ⟨names, weighs, positive⟩
    exact ⟨names, weighs, positive⟩

theorem Entry.ignored_iff : entry.Ignored ↔ entry.offer? = none := by
  rw [Option.eq_none_iff_forall_ne_some]
  constructor
  · rintro ignored ⟨encoding, quality⟩ made
    obtain ⟨names, weighs, positive⟩ := Entry.offers_iff.mpr made
    rcases ignored with other | incomparable | ⟨count, low, same⟩
    · exact other encoding names
    · rw [weighs] at incomparable
      cases incomparable
    · rw [weighs] at same
      cases same
      omega
  · intro silent
    by_cases supported : ∃ encoding, Names entry.coding encoding
    · obtain ⟨encoding, names⟩ := supported
      refine Or.inr ?_
      cases weighs : entry.quality with
      | incomparable => exact Or.inl rfl
      | units count =>
          refine Or.inr ⟨count, ?_, rfl⟩
          have counts : ¬ 0 < count := fun positive =>
            silent (encoding, count)
              (Entry.offers_iff.mp ⟨names, weighs, positive⟩)
          omega
    · exact Or.inl (not_exists.mp supported)

/-! ### Entries that decide nothing -/

/-- Entries that offer no more than the best offer so far leave it the best. -/
theorem foldl_better_within (bounded : Within best.2 added) :
    added.foldl better best = best := by
  induction added with
  | nil => rfl
  | cons entry added ih =>
      have kept : better best entry = best := by
        unfold better
        cases made : entry.offer? with
        | none => rfl
        | some offer =>
            exact if_neg (Int.not_lt.mpr
              (bounded entry List.mem_cons_self offer made))
      rw [List.foldl_cons, kept]
      exact ih fun other member =>
        bounded other (List.mem_cons_of_mem entry member)

theorem within_foldl_better (entries : List Entry) :
    Within (entries.foldl better (identity, 0)).2 entries := by
  rcases foldl_better entries with ⟨nothing, bounded⟩ | first
  · rw [nothing]
    exact bounded
  · exact first.within

theorem choose_append (bounded : ∀ entry ∈ added, ∀ offer,
      entry.offer? = some offer →
        ∃ best ∈ entries, ∃ most, best.offer? = some most ∧ offer.2 ≤ most.2) :
    choose (entries ++ added) = choose entries := by
  rw [choose, choose, List.foldl_append, foldl_better_within]
  intro entry member offer made
  obtain ⟨best, listed, most, given, enough⟩ := bounded entry member offer made
  exact Int.le_trans enough (within_foldl_better entries best listed most given)

theorem choose_insert {front ignored back : List Entry}
    (silent : ∀ entry ∈ ignored, entry.offer? = none) :
    choose (front ++ ignored ++ back) = choose (front ++ back) := by
  have nothing (best : ContentEncoding × Int) : Within best.2 ignored := by
    intro entry member offer made
    rw [silent entry member] at made
    cases made
  rw [choose, choose, List.foldl_append, List.foldl_append, List.foldl_append,
    foldl_better_within (nothing _)]

/-- The entries of a header are the texts between its commas, each with the quality
that its parameters give. If none of them counts, nothing is compressed; otherwise
the first of the best decides. What is put behind the entries and is no better than
the best of them changes nothing, and neither does what is put anywhere between them
and does not count. -/
theorem first_best_decides (accept : String) :
    Lists accept (entriesOf accept) ∧
    ((∀ entry ∈ entriesOf accept, entry.Ignored) →
      negotiate (some accept) = identity) ∧
    ((∃ entry ∈ entriesOf accept, ¬ entry.Ignored) →
      ∃ front best back quality, entriesOf accept = front ++ best :: back ∧
        best.Offers (negotiate (some accept)) quality ∧
        (∀ entry ∈ front, ∀ encoding other,
          entry.Offers encoding other → other < quality) ∧
        ∀ entry ∈ back, ∀ encoding other,
          entry.Offers encoding other → other ≤ quality) ∧
    (∀ added : String,
      (∀ entry ∈ entriesOf added, ∀ encoding quality,
        entry.Offers encoding quality →
          ∃ best ∈ entriesOf accept, ∃ other most,
            best.Offers other most ∧ quality ≤ most) →
      negotiate (some (accept ++ "," ++ added)) = negotiate (some accept)) ∧
    ∀ front ignored back : List String,
      accept = ",".intercalate (front ++ back) →
      (∀ text ∈ ignored, ∀ entry ∈ entriesOf text, entry.Ignored) →
      negotiate (some (",".intercalate (front ++ ignored ++ back))) =
        negotiate (some accept) := by
  have chooses : negotiate (some accept) = choose (entriesOf accept) := rfl
  refine ⟨lists_entriesOf accept, ?_, ?_, ?_, ?_⟩
  · intro ignored
    rcases choose_cases (entriesOf accept) with ⟨nothing, -⟩ | ⟨quality, first⟩
    · rw [chooses, nothing]
    · obtain ⟨front, best, back, split, made, -⟩ := first
      have silent := ignored best (by simp [split])
      rw [Entry.ignored_iff.mp silent] at made
      cases made
  · rintro ⟨entry, member, counts⟩
    rcases choose_cases (entriesOf accept) with ⟨-, silent⟩ | ⟨quality, first⟩
    · exact absurd (Entry.ignored_iff.mpr (silent entry member)) counts
    · obtain ⟨front, best, back, split, made, below, within⟩ := first
      refine ⟨front, best, back, quality, split, Entry.offers_iff.mpr made,
        fun entry member encoding other offers =>
          below entry member (encoding, other) (Entry.offers_iff.mp offers),
        fun entry member encoding other offers =>
          within entry member (encoding, other) (Entry.offers_iff.mp offers)⟩
  · intro added bounded
    have together : negotiate (some (accept ++ "," ++ added)) =
        choose (entriesOf accept ++ entriesOf added) := by
      rw [← entriesOf_append]
      rfl
    rw [together, chooses]
    -- what is no better and stands behind loses every tie
    apply choose_append
    rintro entry member ⟨encoding, quality⟩ made
    obtain ⟨best, listed, other, most, offers, enough⟩ :=
      bounded entry member encoding quality (Entry.offers_iff.mpr made)
    exact ⟨best, listed, (other, most), Entry.offers_iff.mp offers, enough⟩
  · rintro front ignored back rfl silent
    rw [negotiate_intercalate, negotiate_intercalate, List.flatMap_append,
      List.flatMap_append, List.flatMap_append]
    apply choose_insert
    intro entry member
    obtain ⟨text, listed, said⟩ := List.mem_flatMap.mp member
    exact Entry.ignored_iff.mp (silent text listed entry said)

/-- An entry that is as good as the best but stands behind it; and two entries that do not count,
between the two. -/
theorem first_best_decides_tie :
    let accept := "deflate;q=0.5"
    let added := " GZIP ; Q=1 ; q=.50"
    entriesOf accept = [⟨"deflate", .units (Quality.scale / 2)⟩] ∧
      entriesOf added = [⟨"gzip", .units (Quality.scale / 2)⟩] ∧
      negotiate (some (accept ++ "," ++ added)) = negotiate (some accept) ∧
      entriesOf "br" = [⟨"br", .one⟩] ∧
      entriesOf "gzip;q=nan" = [⟨"gzip", .incomparable⟩] ∧
      negotiate (some (",".intercalate [accept, "br", "gzip;q=nan", added])) =
        negotiate (some (",".intercalate [accept, added])) := by
  intro accept added
  have best : entriesOf accept = [⟨"deflate", .units (Quality.scale / 2)⟩] := by
    decide +kernel
  have behind : entriesOf added = [⟨"gzip", .units (Quality.scale / 2)⟩] := by
    decide +kernel
  have unknown : entriesOf "br" = [⟨"br", .one⟩] := by decide +kernel
  have unweighed : entriesOf "gzip;q=nan" = [⟨"gzip", .incomparable⟩] := by
    decide +kernel
  refine ⟨best, behind, (first_best_decides accept).2.2.2.1 added ?_, unknown,
    unweighed, (first_best_decides _).2.2.2.2 [accept] ["br", "gzip;q=nan"] [added] rfl ?_⟩
  · rw [best, behind]
    intro entry member encoding quality offers
    rw [List.mem_singleton.mp member] at offers
    refine ⟨_, List.mem_singleton_self _, deflate, Quality.scale / 2,
      ⟨.deflate, rfl, by decide⟩, ?_⟩
    have same := Quality.units.inj offers.weighs
    omega
  · intro text listed entry member
    rcases List.mem_cons.mp listed with rfl | last
    · rw [unknown] at member
      rw [List.mem_singleton.mp member]
      exact Entry.ignored_iff.mpr (by decide)
    · rw [List.mem_singleton.mp last, unweighed] at member
      rw [List.mem_singleton.mp member]
      exact .inr (.inl rfl)

end TunnelRelay.Http.ContentEncoding
