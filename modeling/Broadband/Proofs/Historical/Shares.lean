import Broadband.Proofs.Checks
import Broadband.Report.Historical

/-!
# Which shares a requirement names

A share in the historical data is known by a pair: the kind of its indicator and the indicator. Here
is said, without the checks and the search that the program makes, which requirements name shares
and which shares they name: `Criterion.Names` for a leaf, `Criterion.Chooses` for a choice among
leaves, `Requirement.Chooses` for a whole requirement.

The program decides the same in two places. `checkHistorical` looks at leaves only and accepts them
under any negation, quantifier and tree; `indicators` looks at form only and takes over whatever a
leaf compares with. Neither is right alone. A requirement passes both exactly if it chooses among
shares (`Requirement.Chooses.indicators` and its converse `Requirement.chooses_of_indicators`), and
the indicators found are then the pairs, each once.
-/

namespace Broadband

open Checks

/-! ## Naming shares -/

namespace Shares

/-- The technologies that there are shares of, and what the data call them. -/
def technologies : List (Technology × String) :=
  [(.fiber, "fiber"), (.cable, "cable"), (.dsl, "dsl"), (.fourG, "4g")]

/-- The download speeds that there are shares of, in Mbit/s. -/
def downloads : List Int := [10, 30, 50, 100, 500, 1000]

/-- The upload speeds that there are shares of together with a download speed, in Mbit/s. -/
def uploads : List Int := [10, 50, 100, 500, 1000]

/-- The program looks for the same technologies and thresholds. -/
theorem mem_technologies_iff {t : Technology} {name : String} :
    (t, name) ∈ technologies ↔ t ∈ historicalTechnologies ∧ t.stored = name := by
  constructor
  · have hall : ∀ p ∈ technologies, p.1 ∈ historicalTechnologies ∧ p.1.stored = p.2 := by decide
    exact fun h => hall (t, name) h
  · have hall : ∀ t ∈ historicalTechnologies, (t, t.stored) ∈ technologies := by decide
    rintro ⟨h, rfl⟩
    exact hall t h

theorem mem_downloads_iff {n : Int} : n ∈ downloads ↔ n ∈ historicalDownloads := Iff.rfl

theorem mem_uploads_iff {m : Int} : m ∈ uploads ↔ m ∈ historicalUploads := Iff.rfl

end Shares

/-- A leaf names a share: a technology of the historical data, by its flag or by its stored value; a
download threshold; or a download and an upload threshold, in either order. -/
inductive Criterion.Names : Criterion → String × String → Prop
  | flag {t : Technology} {name : String} (h : (t, name) ∈ Shares.technologies) :
      Names (.technology t false) ("tek", name)
  | stored {t : Technology} {name : String} (h : (t, name) ∈ Shares.technologies) :
      Names (.compare .technology .eq (.text name) false) ("tek", name)
  | download {n : Int} (h : n ∈ Shares.downloads) :
      Names (.compare .download .ge (.number n) false) ("hast", "ned>=" ++ toString n)
  | downloadUpload {n m : Int} (hn : n ∈ Shares.downloads) (hm : m ∈ Shares.uploads) :
      Names (.join .and (.compare .download .ge (.number n) false)
        (.compare .upload .ge (.number m) false))
        ("hast", "ned>=" ++ toString n ++ ",opp>=" ++ toString m)
  | uploadDownload {n m : Int} (hn : n ∈ Shares.downloads) (hm : m ∈ Shares.uploads) :
      Names (.join .and (.compare .upload .ge (.number m) false)
        (.compare .download .ge (.number n) false))
        ("hast", "ned>=" ++ toString n ++ ",opp>=" ++ toString m)

/-- A tree of `OR`s over leaves that name shares, with the shares from left to right. -/
inductive Criterion.Chooses : Criterion → List (String × String) → Prop
  | leaf {c : Criterion} {p : String × String} (h : c.Names p) : Chooses c [p]
  | or {l r : Criterion} {ps qs : List (String × String)} (hl : Chooses l ps) (hr : Chooses r qs) :
      Chooses (.join .or l r) (ps ++ qs)

/-- Several criteria that all choose among shares, with the shares from left to right. -/
inductive Criterion.AllChoose : List Criterion → List (String × String) → Prop
  | nil : AllChoose [] []
  | cons {c : Criterion} {cs : List Criterion} {ps qs : List (String × String)} (h : c.Chooses ps)
      (hs : AllChoose cs qs) : AllChoose (c :: cs) (ps ++ qs)

/-- A requirement that chooses among shares: a criterion alone, any of several, or all of one. -/
inductive Requirement.Chooses : Requirement → List (String × String) → Prop
  | single {c : Criterion} {ps : List (String × String)} (h : c.Chooses ps) : Chooses (.single c) ps
  | any {cs : List Criterion} {ps : List (String × String)} (hne : cs ≠ [])
      (h : Criterion.AllChoose cs ps) : Chooses (.quantified .any cs) ps
  | all {c : Criterion} {ps : List (String × String)} (h : c.Chooses ps) :
      Chooses (.quantified .all [c]) ps

/-! ## The indicators that there are -/

/-- Every indicator that the historical data have shares for. -/
def Indicator.known : List Indicator :=
  historicalTechnologies.map (fun t => .technology t.stored) ++
    historicalDownloads.map (fun n => .speed n none) ++
    historicalDownloads.flatMap fun n => historicalUploads.map fun m => .speed n (some m)

/-- The kind of an indicator and the indicator, as the data name them. -/
def Indicator.pair (i : Indicator) : String × String := (i.kind, i.value)

theorem Indicator.technology_mem_known {t : Technology} (h : t ∈ historicalTechnologies) :
    .technology t.stored ∈ known :=
  List.mem_append_left _ (List.mem_append_left _ (List.mem_map_of_mem h))

theorem Indicator.download_mem_known {n : Int} (h : n ∈ historicalDownloads) :
    .speed n none ∈ known :=
  List.mem_append_left _ (List.mem_append_right _ (List.mem_map_of_mem h))

theorem Indicator.speed_mem_known {n m : Int} (hn : n ∈ historicalDownloads)
    (hm : m ∈ historicalUploads) : .speed n (some m) ∈ known :=
  List.mem_append_right _ (List.mem_flatMap.2 ⟨n, hn, List.mem_map_of_mem hm⟩)

/-- Different known indicators have different names in the data. -/
theorem Indicator.pair_injOn_known : ∀ i ∈ known, ∀ j ∈ known, i.pair = j.pair → i = j := by
  decide +kernel

/-- A text without quotes stands between quotes as it is, and so do the names of the known
indicators. -/
theorem Indicator.quoted_of_mem_known :
    ∀ i ∈ known, Text.quoted i.kind = "'" ++ i.pair.1 ++ "'" ∧
      Text.quoted i.value = "'" ++ i.pair.2 ++ "'" := by
  decide +kernel

/-! ## Leaves -/

theorem Technology.checkHistorical_eq_ok_iff {t : Technology} :
    t.checkHistorical = .ok () ↔ t ∈ historicalTechnologies := by
  simp [Technology.checkHistorical]

/-- A stored value belongs to the technology that is found for it. -/
theorem Technology.stored_of_ofStored? {s : String} {t : Technology} (h : ofStored? s = some t) :
    t.stored = s := by
  simpa using List.find?_some h

theorem Technology.ofStored?_stored (t : Technology) : ofStored? t.stored = some t := by
  cases t <;> decide

/-- A leaf that names a share passes the check of leaves and is found as an indicator. -/
theorem Criterion.Names.indicator {c : Criterion} {p : String × String} (h : c.Names p) :
    c.alternatives = [c] ∧ c.checkHistorical = .ok () ∧
      ∃ i ∈ Indicator.known, c.indicator = .ok i ∧ i.pair = p := by
  cases h with
  | flag h =>
    obtain ⟨ht, rfl⟩ := Shares.mem_technologies_iff.1 h
    exact ⟨rfl, Technology.checkHistorical_eq_ok_iff.2 ht, _, Indicator.technology_mem_known ht,
      rfl, rfl⟩
  | stored h =>
    obtain ⟨ht, rfl⟩ := Shares.mem_technologies_iff.1 h
    -- the check looks the stored value up, and finds the technology it was taken from
    refine ⟨rfl, ?_, _, Indicator.technology_mem_known ht, rfl, rfl⟩
    simpa [checkHistorical, Field.checkHistorical, Technology.ofStored?_stored] using
      Technology.checkHistorical_eq_ok_iff.2 ht
  | download hn =>
    rw [Shares.mem_downloads_iff] at hn
    refine ⟨rfl, ?_, _, Indicator.download_mem_known hn, rfl, rfl⟩
    simpa [checkHistorical, Field.checkHistorical, historicalThresholds] using hn
  | downloadUpload hn hm =>
    rw [Shares.mem_downloads_iff] at hn
    rw [Shares.mem_uploads_iff] at hm
    refine ⟨rfl, ?_, _, Indicator.speed_mem_known hn hm, rfl, rfl⟩
    simp [checkHistorical, Field.checkHistorical, historicalThresholds, hn, hm, bind, Except.bind]
  | uploadDownload hn hm =>
    rw [Shares.mem_downloads_iff] at hn
    rw [Shares.mem_uploads_iff] at hm
    refine ⟨rfl, ?_, _, Indicator.speed_mem_known hn hm, rfl, rfl⟩
    simp [checkHistorical, Field.checkHistorical, historicalThresholds, hn, hm, bind, Except.bind]

/-- A comparison of the technology column that passes the check is with a stored value. -/
theorem Field.stored_of_checkHistorical {op : Comparison} {s : String}
    (h : Field.technology.checkHistorical op (.text s) = .ok ()) :
    op = .eq ∧ ∃ t ∈ historicalTechnologies, t.stored = s := by
  by_cases hop : op = .eq
  · refine ⟨hop, ?_⟩
    cases ht : Technology.ofStored? s with
    | none => simp [Field.checkHistorical, hop, ht] at h
    | some t =>
      simp only [Field.checkHistorical, hop, ht, ne_eq, not_true, if_false] at h
      exact ⟨t, Technology.checkHistorical_eq_ok_iff.1 h, Technology.stored_of_ofStored? ht⟩
  · simp [Field.checkHistorical, hop] at h

/-- A comparison of a speed that passes the check is with a threshold. -/
theorem Field.threshold_of_checkHistorical {field : Field} (hfield : field.isSpeed = true)
    {op : Comparison} {n : Int} (h : field.checkHistorical op (.number n) = .ok ()) :
    op = .ge ∧ n ∈ (historicalThresholds field).1 := by
  by_cases hop : op = .ge
  · refine ⟨hop, ?_⟩
    cases field <;> simp_all [Field.checkHistorical, Field.isSpeed]
  · cases field <;> simp_all [Field.checkHistorical, Field.isSpeed]

theorem Criterion.eq_of_threshold? {c : Criterion} {field : Field} {n : Int}
    (h : c.threshold? = some (field, n)) :
    c = .compare field .ge (.number n) false ∧ field.isSpeed = true := by
  unfold threshold? at h
  split at h
  · split at h
    · rename_i hspeed
      obtain ⟨rfl, rfl⟩ : _ = field ∧ _ = n := by simpa using h
      exact ⟨rfl, hspeed⟩
    · simp at h
  · simp at h

/-- A threshold that passes the check is one of the historical data. -/
theorem Criterion.mem_thresholds {field : Field} (hfield : field.isSpeed = true) {op : Comparison}
    {n : Int} {negated : Bool}
    (h : (Criterion.compare field op (.number n) negated).checkHistorical = .ok ()) :
    n ∈ (historicalThresholds field).1 :=
  (Field.threshold_of_checkHistorical hfield h).2

/-- A leaf that passes the check of leaves and is found as an indicator names the share of it. -/
theorem Criterion.names_of_indicator {c : Criterion} {i : Indicator}
    (hc : c.checkHistorical = .ok ()) (hi : c.indicator = .ok i) : c.Names i.pair := by
  unfold indicator at hi
  split at hi
  · obtain rfl := Except.ok.inj hi
    exact .flag (Shares.mem_technologies_iff.2 ⟨Technology.checkHistorical_eq_ok_iff.1 hc, rfl⟩)
  · obtain rfl := Except.ok.inj hi
    obtain ⟨rfl, t, ht, rfl⟩ := Field.stored_of_checkHistorical hc
    exact .stored (Shares.mem_technologies_iff.2 ⟨ht, rfl⟩)
  · obtain rfl := Except.ok.inj hi
    obtain ⟨rfl, hn⟩ := Field.threshold_of_checkHistorical rfl hc
    exact .download (Shares.mem_downloads_iff.2 hn)
  · simp at hi
  · -- the two thresholds are read off the operands, whichever comes first
    rename_i left right
    obtain ⟨⟨⟩, hleft, hright⟩ := bind_eq_ok_iff.1 hc
    split at hi
    · rename_i down up hdown hup
      obtain rfl := Except.ok.inj hi
      obtain ⟨rfl, -⟩ := eq_of_threshold? hdown
      obtain ⟨rfl, -⟩ := eq_of_threshold? hup
      exact .downloadUpload (Shares.mem_downloads_iff.2 (mem_thresholds rfl hleft))
        (Shares.mem_uploads_iff.2 (mem_thresholds rfl hright))
    · rename_i up down hup hdown
      obtain rfl := Except.ok.inj hi
      obtain ⟨rfl, -⟩ := eq_of_threshold? hdown
      obtain ⟨rfl, -⟩ := eq_of_threshold? hup
      exact .uploadDownload (Shares.mem_downloads_iff.2 (mem_thresholds rfl hright))
        (Shares.mem_uploads_iff.2 (mem_thresholds rfl hleft))
    · simp at hi
  all_goals simp at hi

/-! ## Choices -/

/-- The indicators that the alternatives of some criteria are found as, before repetitions go. -/
def indicatorsFrom (cs : List Criterion) : Except Rejection (List Indicator) :=
  (cs.flatMap Criterion.alternatives).mapM Criterion.indicator

theorem indicatorsFrom_cons_eq_ok_iff {c : Criterion} {cs : List Criterion} {is : List Indicator} :
    indicatorsFrom (c :: cs) = .ok is ↔
      ∃ js ks, indicatorsFrom [c] = .ok js ∧ indicatorsFrom cs = .ok ks ∧ is = js ++ ks := by
  simp only [indicatorsFrom, List.flatMap_cons, List.flatMap_nil, List.append_nil, List.mapM_append,
    bind_eq_ok_iff, pure, Except.pure, Except.ok.injEq]
  constructor
  · rintro ⟨js, hjs, ks, hks, rfl⟩
    exact ⟨js, ks, hjs, hks, rfl⟩
  · rintro ⟨js, ks, hjs, hks, rfl⟩
    exact ⟨js, hjs, ks, hks, rfl⟩

/-- The alternatives of an `OR` are those of its operands. -/
theorem indicatorsFrom_or (l r : Criterion) :
    indicatorsFrom [.join .or l r] = indicatorsFrom [l, r] := by
  simp [indicatorsFrom, Criterion.alternatives]

theorem indicatorsFrom_leaf {c : Criterion} (h : c.alternatives = [c]) :
    indicatorsFrom [c] = c.indicator.map ([·]) := by
  simp only [indicatorsFrom, List.flatMap_cons, List.flatMap_nil, List.append_nil, h,
    List.mapM_cons, List.mapM_nil]
  cases c.indicator <;> rfl

/-- A choice passes the check of leaves, and its shares are the indicators found. -/
theorem Criterion.Chooses.indicators {c : Criterion} {ps : List (String × String)}
    (h : c.Chooses ps) :
    c.checkHistorical = .ok () ∧ ∃ is, indicatorsFrom [c] = .ok is ∧ is.map Indicator.pair = ps ∧
      ∀ i ∈ is, i ∈ Indicator.known := by
  induction h with
  | @leaf c p h =>
    obtain ⟨halt, hcheck, i, hknown, hi, rfl⟩ := h.indicator
    refine ⟨hcheck, [i], ?_, rfl, by simpa using hknown⟩
    simp [indicatorsFrom_leaf halt, hi, Except.map]
  | or _ _ ihl ihr =>
    obtain ⟨hl, js, hjs, rfl, hjknown⟩ := ihl
    obtain ⟨hr, ks, hks, rfl, hkknown⟩ := ihr
    refine ⟨bind_eq_ok_iff.2 ⟨(), hl, hr⟩, js ++ ks, ?_, List.map_append,
      List.forall_mem_append.2 ⟨hjknown, hkknown⟩⟩
    rw [indicatorsFrom_or]
    exact indicatorsFrom_cons_eq_ok_iff.2 ⟨js, ks, hjs, hks, rfl⟩

/-- A criterion of which all alternatives pass and are found chooses among their shares. -/
theorem Criterion.chooses_of_indicators {c : Criterion} {is : List Indicator}
    (hc : c.checkHistorical = .ok ()) (h : indicatorsFrom [c] = .ok is) :
    c.Chooses (is.map Indicator.pair) := by
  -- what is not an `OR` has itself as its only alternative
  have hleaf : ∀ c : Criterion, c.alternatives = [c] → c.checkHistorical = .ok () →
      ∀ is, indicatorsFrom [c] = .ok is → c.Chooses (is.map Indicator.pair) := by
    intro c halt hc is h
    rw [indicatorsFrom_leaf halt] at h
    obtain ⟨i, hi, rfl⟩ := map_eq_ok_iff.1 h
    exact .leaf (names_of_indicator hc hi)
  induction c generalizing is with
  | join op l r ihl ihr =>
    cases op with
    | and => exact hleaf _ rfl hc is h
    | or =>
      obtain ⟨⟨⟩, hl, hr⟩ := bind_eq_ok_iff.1 hc
      rw [indicatorsFrom_or] at h
      obtain ⟨js, ks, hjs, hks, rfl⟩ := indicatorsFrom_cons_eq_ok_iff.1 h
      rw [List.map_append]
      exact .or (ihl hl hjs) (ihr hr hks)
  | technology t negated => exact hleaf _ rfl hc is h
  | compare field op value negated => exact hleaf _ rfl hc is h
  | not c ih => exact hleaf _ rfl hc is h

theorem Criterion.AllChoose.indicators {cs : List Criterion} {ps : List (String × String)}
    (h : AllChoose cs ps) :
    (∀ c ∈ cs, c.checkHistorical = .ok ()) ∧ ∃ is, indicatorsFrom cs = .ok is ∧
      is.map Indicator.pair = ps ∧ ∀ i ∈ is, i ∈ Indicator.known := by
  induction h with
  | nil => exact ⟨by simp, [], rfl, rfl, by simp⟩
  | cons h _ ih =>
    obtain ⟨hc, js, hjs, rfl, hjknown⟩ := h.indicators
    obtain ⟨hcs, ks, hks, rfl, hkknown⟩ := ih
    exact ⟨List.forall_mem_cons.2 ⟨hc, hcs⟩, js ++ ks,
      indicatorsFrom_cons_eq_ok_iff.2 ⟨js, ks, hjs, hks, rfl⟩, List.map_append,
      List.forall_mem_append.2 ⟨hjknown, hkknown⟩⟩

theorem Criterion.allChoose_of_indicators {cs : List Criterion} {is : List Indicator}
    (hcs : ∀ c ∈ cs, c.checkHistorical = .ok ()) (h : indicatorsFrom cs = .ok is) :
    AllChoose cs (is.map Indicator.pair) := by
  induction cs generalizing is with
  | nil =>
    obtain rfl : [] = is := Except.ok.inj h
    exact .nil
  | cons c cs ih =>
    rw [List.forall_mem_cons] at hcs
    obtain ⟨js, ks, hjs, hks, rfl⟩ := indicatorsFrom_cons_eq_ok_iff.1 h
    rw [List.map_append]
    exact .cons (chooses_of_indicators hcs.1 hjs) (ih hcs.2 hks)

theorem Criterion.Chooses.ne_nil {c : Criterion} {ps : List (String × String)} (h : c.Chooses ps) :
    ps ≠ [] := by
  cases h with
  | leaf => simp
  | or hl _ => simp [hl.ne_nil]

/-! ## Requirements -/

/-- Repetitions go before or after a renaming that keeps different things apart. -/
theorem eraseDups_map {α β : Type} [BEq α] [LawfulBEq α] [BEq β] [LawfulBEq β] {f : α → β}
    {xs : List α} (hf : ∀ x ∈ xs, ∀ y ∈ xs, f x = f y → x = y) :
    (xs.map f).eraseDups = xs.eraseDups.map f := by
  -- what is left after the first element and its repetitions is shorter, not just a tail
  induction hn : xs.length using Nat.strongRecOn generalizing xs with
  | ind n ih =>
    cases xs with
    | nil => rfl
    | cons x xs =>
      rw [List.forall_mem_cons] at hf
      have hfilter : (xs.map f).filter (fun b => !b == f x)
          = (xs.filter fun a => !a == x).map f := by
        rw [List.filter_map]
        congr 1
        refine List.filter_congr fun a ha => ?_
        have := hf.1 a (List.mem_cons_of_mem x ha)
        by_cases hax : a = x
        · simp [hax]
        · have hne : f a ≠ f x := fun h => hax (this h.symm).symm
          simp [beq_eq_false_iff_ne.2 hax, beq_eq_false_iff_ne.2 hne]
      have hlength : (xs.filter fun a => !a == x).length < n := by
        have := List.length_filter_le (fun a => !a == x) xs
        simp only [List.length_cons] at hn
        omega
      have hinj : ∀ a ∈ xs.filter (fun a => !a == x), ∀ b ∈ xs.filter (fun a => !a == x),
          f a = f b → a = b := fun a ha b hb =>
        hf.2 a (List.mem_filter.1 ha).1 b (List.mem_cons_of_mem x (List.mem_filter.1 hb).1)
      rw [List.map_cons, List.eraseDups_cons, hfilter, ih _ hlength hinj rfl, List.eraseDups_cons,
        List.map_cons]

theorem indicatorsOf_eq (cs : List Criterion) :
    indicatorsOf cs = (indicatorsFrom cs).map List.eraseDups := by
  unfold indicatorsOf indicatorsFrom
  cases (cs.flatMap Criterion.alternatives).mapM Criterion.indicator <;> rfl

/-- The indicators found are the pairs once repetitions are gone from both. -/
theorem indicatorsOf_of_indicatorsFrom {cs : List Criterion} {is : List Indicator}
    {ps : List (String × String)} (hne : ps ≠ []) (h : indicatorsFrom cs = .ok is)
    (hps : is.map Indicator.pair = ps) (hknown : ∀ i ∈ is, i ∈ Indicator.known) :
    ∃ js, indicatorsOf cs = .ok js ∧ js.map Indicator.pair = ps.eraseDups ∧
      (∀ j ∈ js, j ∈ Indicator.known) ∧ js ≠ [] := by
  have hinj : ∀ i ∈ is, ∀ j ∈ is, i.pair = j.pair → i = j := fun i hi j hj =>
    Indicator.pair_injOn_known i (hknown i hi) j (hknown j hj)
  refine ⟨is.eraseDups, ?_, ?_, ?_, ?_⟩
  · rw [indicatorsOf_eq, h]
    rfl
  · rw [← hps, eraseDups_map hinj]
  · exact fun j hj => hknown j (List.mem_eraseDups.1 hj)
  · cases is with
    | nil => exact absurd hps.symm hne
    | cons i is => simp [List.eraseDups_cons]

/-- A requirement that chooses among shares passes the check of leaves, and its indicators are found
and are those shares, each once. -/
theorem Requirement.Chooses.indicators {r : Requirement} {ps : List (String × String)}
    (h : r.Chooses ps) :
    r.checkHistorical = .ok () ∧ ∃ is, r.indicators = .ok is ∧
      is.map Indicator.pair = ps.eraseDups ∧ (∀ i ∈ is, i ∈ Indicator.known) ∧ is ≠ [] := by
  cases h with
  | single h =>
    obtain ⟨hc, is, his, hps, hknown⟩ := h.indicators
    exact ⟨hc, indicatorsOf_of_indicatorsFrom h.ne_nil his hps hknown⟩
  | all h =>
    obtain ⟨hc, is, his, hps, hknown⟩ := h.indicators
    exact ⟨forM_eq_ok_iff.2 (by simpa using hc),
      indicatorsOf_of_indicatorsFrom h.ne_nil his hps hknown⟩
  | any hne h =>
    obtain ⟨hcs, is, his, hps, hknown⟩ := h.indicators
    -- several criteria name at least the share of the first one
    have hps_ne : ps ≠ [] := by
      cases h with
      | nil => exact absurd rfl hne
      | cons h _ => simp [h.ne_nil]
    obtain ⟨c, cs, rfl⟩ := List.exists_cons_of_ne_nil hne
    exact ⟨forM_eq_ok_iff.2 hcs, indicatorsOf_of_indicatorsFrom hps_ne his hps hknown⟩

/-- A requirement that passes the check of leaves and of which the indicators are found chooses
among shares. -/
theorem Requirement.chooses_of_indicators {r : Requirement} {is : List Indicator}
    (hr : r.checkHistorical = .ok ()) (h : r.indicators = .ok is) : ∃ ps, r.Chooses ps := by
  have hfrom : ∀ cs, indicatorsOf cs = .ok is → ∃ js, indicatorsFrom cs = .ok js := by
    intro cs hcs
    rw [indicatorsOf_eq] at hcs
    obtain ⟨js, hjs, -⟩ := map_eq_ok_iff.1 hcs
    exact ⟨js, hjs⟩
  -- the forms that the search accepts are the three that choose; the others are rejected
  unfold indicators at h
  split at h
  · obtain ⟨js, hjs⟩ := hfrom _ h
    exact ⟨_, .single (Criterion.chooses_of_indicators hr hjs)⟩
  · simp at h
  · rename_i cs hne
    obtain ⟨js, hjs⟩ := hfrom _ h
    exact ⟨_, .any hne (Criterion.allChoose_of_indicators (forM_eq_ok_iff.1 hr) hjs)⟩
  · obtain ⟨js, hjs⟩ := hfrom _ h
    have hc := forM_eq_ok_iff.1 hr
    exact ⟨_, .all (Criterion.chooses_of_indicators (hc _ (by simp)) hjs)⟩
  · simp at h
  · simp at h

end Broadband
