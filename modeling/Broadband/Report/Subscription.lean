import Broadband.Report.Basic

/-!
# Counts of subscriptions

Subscriptions are rows of their own, so they are counted directly: all that pass the filters, and
those of them that meet the requirement.

The county of a subscription needs care, because counties have been merged and split and a
subscription may carry a name that is no longer in use. The county of the subscriber's address comes
first, then the county in which most addresses of the municipality lie today, and the recorded name
last.

This is Span's generator for `Strategy.Subscription`.
-/

namespace Broadband.Report

open Sql

/-- A subscription's own column. -/
def subscriptionColumn (name : String) : Column := ⟨some "s", name⟩

/-- For each municipality and recorded county, the counties of the addresses, ranked by how many
addresses lie in them. -/
def rankedCounties : Select Source :=
  let komnr : Column := ⟨some "k", "komnr"⟩
  let recorded : Column := ⟨some "k", "old_fylke"⟩
  let county : Column := ⟨some "a", "fylke"⟩
  let year : Column := ⟨some "k", "aar"⟩
  { columns := [.same komnr, .same recorded, .same county, .same year,
      .named (.sizeRank [komnr, recorded, year] county) "rank_no"]
    source := .distinct
      [.same ⟨none, "komnr"⟩, .named (.column ⟨none, "fylke"⟩) "old_fylke", .same ⟨none, "aar"⟩]
      ⟨"ab", none⟩ "k"
    joins := [⟨false, ⟨"adr", some "a"⟩,
      [.compare ⟨some "a", "komnr"⟩ .eq (.column komnr),
       .compare ⟨some "a", "aar"⟩ .eq (.column year)]⟩]
    groupBy := [.column komnr, .column recorded, .column county, .column year] }

/-- For each municipality and recorded county, the county with the most addresses. Span's
`county_map`. -/
def countyMap : Select Derived where
  columns := ["komnr", "old_fylke", "fylke", "aar"].map fun name => .same ⟨none, name⟩
  source := ⟨rankedCounties, "ranked"⟩
  filters := [.holds (.compare ⟨none, "rank_no"⟩ .eq (.literal (.number 1)))]

/-- The address of the subscriber, and the current county of the municipality. -/
def countyJoins : List Join :=
  let matching (short left right : String) : Condition :=
    .compare ⟨some short, left⟩ .eq (.column (subscriptionColumn right))
  [⟨true, ⟨"adr", some "af"⟩, [matching "af" "adrid" "adrid", matching "af" "aar" "aar"]⟩,
   ⟨true, ⟨"fylke_map", some "fm"⟩,
     [matching "fm" "komnr" "komnr", matching "fm" "old_fylke" "fylke", matching "fm" "aar" "aar"]⟩]

/-- The county of a subscription. Span's `COUNTY_EXPR`. -/
def subscriptionCounty : Scalar :=
  .coalesce [.column ⟨some "af", "fylke"⟩, .column ⟨some "fm", "fylke"⟩,
    .column (subscriptionColumn "fylke")]

/-- The label of the group that a subscription belongs to. -/
def subscriptionGroup (r : Report) : Scalar :=
  if r.byCounty then subscriptionCounty else r.query.grouping.label (some "s")

/-- The number of subscriptions that meet the requirement; without one, all do. -/
def matchingSubscriptions (r : Report) : Except Rejection Scalar :=
  match r.query.requirement with
  | none => .ok .countRows
  | some requirement =>
    (requirement.condition (some "s")).map fun c =>
      .sum (.ifElse c (.literal (.number 1)) (.literal (.number 0)))

/-- The report of subscriptions, one row for each group and year. -/
def subscription (r : Report) : Except Rejection Statement := do
  let covered ← r.matchingSubscriptions
  let filters ← filterConditions r.query.filters (some "s")
  let result : Select Source :=
    { columns := .named r.subscriptionGroup "gruppe" ::
        (r.ifMultiYear (.same (subscriptionColumn "aar")) ++
          [.named covered "covered", .named .countRows "total",
           .named (.percentage covered .countRows) "percent"])
      source := .table ⟨"ab", some "s"⟩
      joins := if r.byCounty then countyJoins else []
      filters := .holds (r.yearCondition (some "s")) :: filters.map .holds
      groupBy := r.subscriptionGroup :: r.ifMultiYear (.column (subscriptionColumn "aar")) }
  let counties : List Definition :=
    if r.byCounty then [⟨"adr", r.files [.addresses]⟩, ⟨"fylke_map", .nested countyMap⟩] else []
  return r.ofResult
    (⟨"ab", r.files [.subscriptions]⟩ :: (counties ++ [⟨"result", .select result⟩]))

end Broadband.Report
