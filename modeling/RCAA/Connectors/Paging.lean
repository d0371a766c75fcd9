import RCAA.Connectors.Ingest
import RCAA.Library.Paging

/-! Reading the provider's reports page by page. A report of a day is read until a page is not
full; a sync reads one report for each day of its window, which is a whole number of days. -/

namespace RCAA.Connectors

/-- The parameters of one request for a combined report. -/
structure ReconParams where
  year : Int
  month : Int
  day : Option Int
  skip : Nat
  count : Nat

/-- `min(max(count, 1), 1000)`. -/
def pageSize (count : Int) : Nat := (min (max count 1) 1000).toNat

/-- `fetch_combined_recon`: with fuel for so many requests. -/
def fetchCombinedRecon (get : ReconParams → Except Raised (List RawData)) (fuel : Nat) (year month : Int) (day : Option Int)
    (skip : Nat) (count : Int) : Option (Except Raised (List RawData)) :=
  Paging.fetch (fun skip => get ⟨year, month, day, skip, pageSize count⟩) (pageSize count) fuel skip []

/-- What a sync reads of a day, if its requests come to an end. -/
def Fetched (get : ReconParams → Except Raised (List RawData)) (date : Date) (result : Except Raised (List RawData)) : Prop :=
  ∃ fuel, fetchCombinedRecon get fuel date.1 date.2.1 (some date.2.2) 0 1000 = some result

/-- A provider that has one list for each period and answers with the part that is asked for. -/
def listed (items : Int → Int → Option Int → List RawData) (params : ReconParams) : Except Raised (List RawData) :=
  .ok (Paging.page params.skip params.count (items params.year params.month params.day))

/-- The days from a window before now to now. -/
def windowDates (now days : Int) : List Date :=
  (List.range (windowDays days + 1)).map fun i : Nat => civil (dayNumber now - windowDays days + i)

/-! ## One report -/

theorem pageSize_pos (count : Int) : 0 < pageSize count := by
  unfold pageSize
  omega

/-- With fuel for its pages and one request more, a report is read from the first item asked for. -/
theorem fetchCombinedRecon_listed (items : Int → Int → Option Int → List RawData) {fuel : Nat} (year month : Int)
    (day : Option Int) {skip : Nat} {count : Int} (enough : ((items year month day).length - skip) / pageSize count < fuel) :
    fetchCombinedRecon (listed items) fuel year month day skip count = some (.ok ((items year month day).drop skip)) :=
  Paging.fetch_pages (pageSize_pos count) (items year month day) [] enough

/-- The requests for a day end, and have read its list. -/
theorem fetched_iff (items : Int → Int → Option Int → List RawData) (date : Date) (result : Except Raised (List RawData)) :
    Fetched (listed items) date result ↔ result = .ok (items date.1 date.2.1 (some date.2.2)) := by
  have whole := @fetchCombinedRecon_listed items _ date.1 date.2.1 (some date.2.2) 0 1000 (Nat.lt_succ_self _)
  constructor
  · rintro ⟨fuel, done⟩
    exact Paging.fetch_unique done whole
  · rintro rfl
    exact ⟨_, whole⟩

/-! ## The days of a sync -/

theorem syncDates_eq (now days : Int) : syncDates now days = windowDates now days := by
  refine List.map_congr_left fun i _ => ?_
  rw [dateAt, dayNumber, dayNumber, Int.add_mul_ediv_right _ _ (by decide), Int.sub_mul_ediv_right _ _ (by decide)]

theorem mem_windowDates (now days day : Int) :
    civil day ∈ windowDates now days ↔ dayNumber now - windowDays days ≤ day ∧ day ≤ dayNumber now := by
  simp only [windowDates, List.mem_map, List.mem_range, civil_injective.eq_iff]
  constructor
  · rintro ⟨i, below, rfl⟩
    omega
  · rintro ⟨lower, upper⟩
    exact ⟨(day - (dayNumber now - windowDays days)).toNat, by omega, by omega⟩

theorem windowDates_nodup (now days : Int) : (windowDates now days).Nodup := by
  refine List.nodup_range.map fun i j same => ?_
  have days := civil_injective same
  omega

section Examples

end Examples
end RCAA.Connectors
