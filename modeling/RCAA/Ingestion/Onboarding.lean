import RCAA.Ingestion.PersistProofs

/-! Uploaded rows: the columns a mapping names become the keys of a record, and what is
missing takes its default. The mapping is the client's, and may name any key. -/

namespace RCAA

inductive DataType where
  | payments | settlements | refunds | bankTransactions
deriving DecidableEq, Repr

namespace DataType

def recordType : DataType → RecordType
  | .payments => .payment
  | .settlements => .settlement
  | .refunds => .refund
  | .bankTransactions => .bankTransaction

/-- `DEFAULTS["status"]`. -/
def defaultStatus : DataType → String
  | .payments => "captured"
  | .settlements => "processed"
  | .refunds => "processed"
  | .bankTransactions => "posted"

end DataType

/-- A cell, a timestamp as ISO text. -/
def Value.isoText : Value → Value
  | .timestamp value => .str value.isoformat
  | value => value

/-- `data[key] = value or default`, for the value the key has. -/
def Dict.setDefault (data : Dict) (key : String) (default : Value) : Dict := data.set key ((data.get key).or default)

/-- The mapped cells of a row. -/
def mappedRow (mapping : List (String × String)) (row : Dict) : Dict :=
  mapping.foldl (fun data entry => data.set entry.1 (row.get entry.2).isoText) []

/-- One row of `transform_rows`. -/
def transformRow (dataType : DataType) (mapping : List (String × String)) (row : Dict) : Dict :=
  let transformed :=
    ((mappedRow mapping row).setDefault "currency" (.str "INR")).setDefault "status" (.str dataType.defaultStatus)
  if dataType = .settlements then
    let gross := transformed.setDefault "gross_amount" (transformed.get "net_amount")
    (gross.setDefault "fee" (.str "0")).setDefault "tax" (.str "0")
  else transformed

def transformRows (dataType : DataType) (rows : List Dict) (mapping : List (String × String)) : List Dict :=
  rows.map (transformRow dataType mapping)

theorem Dict.get?_set (data : Dict) (key other : String) (value : Value) :
    (data.set key value).get? other = if key = other then some value else data.get? other := by
  induction data with
  | nil =>
    simp only [Dict.set, Dict.get?, List.find?_cons, List.find?_nil]
    split <;> simp_all
  | cons entry rest ih =>
    simp only [Dict.set, Dict.get?] at ih ⊢
    split
    · next same =>
      simp only [List.find?_cons]
      subst same
      split <;> simp_all
    · next differs =>
      simp only [List.find?_cons]
      split
      · next here =>
        have : ¬key = other := fun same => differs (by simpa [same] using here)
        simp [this]
      · exact ih

/-- Setting a default leaves what other keys hold. -/
theorem Dict.get?_setDefault {data : Dict} {key other : String} (differs : key ≠ other) (default : Value) :
    (data.setDefault key default).get? other = data.get? other := by
  rw [Dict.setDefault, Dict.get?_set, if_neg differs]

/-- The defaults of a settlement row leave its metadata and its net amount. -/
theorem transformRow_get? {mapping : List (String × String)} {row : Dict} {key : String}
    (other : key ∉ ["currency", "status", "gross_amount", "fee", "tax"]) :
    (transformRow .settlements mapping row).get? key = (mappedRow mapping row).get? key := by
  simp only [List.mem_cons, List.not_mem_nil, or_false, not_or] at other
  obtain ⟨currency, status, gross, fee, tax⟩ := other
  simp only [transformRow, if_true]
  rw [Dict.get?_setDefault (Ne.symm tax), Dict.get?_setDefault (Ne.symm fee), Dict.get?_setDefault (Ne.symm gross),
    Dict.get?_setDefault (Ne.symm status), Dict.get?_setDefault (Ne.symm currency)]

section Import
variable [Runtime]

def importRows (draws : Draws) (session : Session) (merchantId : String) (dataType : DataType) (rows : List Dict)
    (mapping : List (String × String)) (source : String) (provider : Option String) :
    Except IngestError IngestReport × Session :=
  ingestRecords draws session (transformRows dataType rows mapping) source dataType.recordType provider
    (some merchantId) false

end Import
end RCAA
