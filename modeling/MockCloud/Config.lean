import MockCloud.Json.ToTree
import MockCloud.Text.Blank

/-! # Configuration

The account and the region that calls use when they name none. Both have defaults, and two variables
override them.

* `Config.validate` accepts twelve digits as an account, and as a region two or more groups of lower-case
  letters and a last group of digits, with dashes between them. -/

namespace MockCloud

/-- The usual account and region. -/
structure Config where
  account : String := "123456789012"
  region : String := "us-east-1"
  deriving DecidableEq, Repr, Inhabited

/-- A configuration that is refused. -/
inductive ConfigError where
  | invalidAccountId (account : String)
  | invalidRegion (region : String)
  deriving DecidableEq, Repr

/-- The text of the error. -/
def ConfigError.message : ConfigError → String
  | invalidAccountId account => "account id must be 12 digits, got '" ++ account ++ "'"
  | invalidRegion region => "region '" ++ region ++ "' is not a valid region name"

/-- The name of the error. -/
def ConfigError.name : ConfigError → String
  | invalidAccountId _ => "InvalidAccountId"
  | invalidRegion _ => "InvalidRegion"

namespace Config

/-- The variable that overrides the account. -/
def accountVariable : String := "MOCK_ACCOUNT_ID"

/-- The variable that overrides the region. -/
def regionVariable : String := "MOCK_REGION"

/-- Twelve ASCII digits. -/
def isAccountId (account : String) : Bool :=
  account.toList.length = 12 && account.toList.all Char.isDigit

/-- Groups of ASCII letters and a last group of ASCII digits, at least three in all. -/
def isRegionName (region : String) : Bool :=
  match (region.toList.splitOn '-').reverse with
  | last :: head =>
    2 ≤ head.length && !last.isEmpty && last.all Char.isDigit &&
      head.all fun part => !part.isEmpty && part.all Char.isLower
  | [] => false

/-- Checks the account, then the region. -/
def validate (c : Config) : Except ConfigError Unit :=
  if !isAccountId c.account then .error (.invalidAccountId c.account)
  else if !isRegionName c.region then .error (.invalidRegion c.region)
  else .ok ()

/-- Every character other than the separator is in a part. -/
theorem exists_part_of_mem {sep c : Char} (ne : c ≠ sep) {cs : List Char} (h : c ∈ cs) :
    ∃ part ∈ cs.splitOn sep, c ∈ part := by
  induction cs with
  | nil => cases h
  | cons d ds ih =>
    rw [List.splitOn_cons_eq_if_modifyHead]
    by_cases hd : d = sep
    · obtain ⟨part, hp, hc⟩ := ih ((List.mem_cons.1 h).resolve_left fun e => ne (e.trans hd))
      exact ⟨part, by simp [hd, hp], hc⟩
    · obtain ⟨first, rest, hs⟩ := List.exists_cons_of_ne_nil (List.splitOn_ne_nil sep ds)
      rw [hs] at ih ⊢
      have heads : (if (d == sep) = true then [] :: first :: rest else (first :: rest).modifyHead (List.cons d)) =
          (d :: first) :: rest := by
        simp [hd]
      rw [heads]
      rcases List.mem_cons.1 h with rfl | h
      · exact ⟨c :: first, by simp, by simp⟩
      · obtain ⟨part, hp, hc⟩ := ih h
        rcases List.mem_cons.1 hp with rfl | hp
        · exact ⟨d :: part, by simp, by simp [hc]⟩
        · exact ⟨part, by simp [hp], hc⟩

theorem colon_not_mem_account {account : String} (h : isAccountId account = true) :
    ':' ∉ account.toList := by
  intro mem
  simp only [isAccountId, Bool.and_eq_true, List.all_eq_true] at h
  have digit := h.2 ':' mem
  revert digit
  decide

theorem colon_not_mem_region {region : String} (h : isRegionName region = true) : ':' ∉ region.toList := by
  intro mem
  obtain ⟨part, hp, hc⟩ := exists_part_of_mem (by decide : ':' ≠ '-') mem
  have plain : (part.all Char.isDigit || part.all Char.isLower) = true := by
    unfold isRegionName at h
    rw [← List.mem_reverse] at hp
    split at h
    · next last head hr =>
      rw [hr] at hp
      simp only [Bool.and_eq_true, List.all_eq_true (l := head)] at h
      rcases List.mem_cons.1 hp with rfl | hp
      · simp [h.1.2]
      · simp [(h.2 part hp).2]
    · cases h
  rcases Bool.or_eq_true_iff.1 plain with digits | lower
  · exact absurd (List.all_eq_true.1 digits ':' hc) (by decide)
  · exact absurd (List.all_eq_true.1 lower ':' hc) (by decide)

/-- Neither part of a valid configuration holds a colon. -/
theorem colon_not_mem_of_validate {c : Config} (h : c.validate = .ok ()) :
    ':' ∉ c.account.toList ∧ ':' ∉ c.region.toList := by
  unfold validate at h
  cases account : isAccountId c.account with
  | false => simp [account] at h
  | true =>
    cases region : isRegionName c.region with
    | false => simp [account, region] at h
    | true => exact ⟨colon_not_mem_account account, colon_not_mem_region region⟩

/-- The configuration if it passes the checks. -/
def checked (c : Config) : Except ConfigError Config :=
  c.validate.map fun _ => c

/-- A checked configuration. -/
def new (account region : String) : Except ConfigError Config :=
  checked ⟨account, region⟩

/-- The trimmed value of a variable that is not blank. -/
def override? (value : Option String) : Option String :=
  value.bind fun v => if (Text.trimmed v).isEmpty then none else some (Text.trimmed v)

/-- The configuration that the variables give, with defaults for those that are missing or blank. -/
def ofLookup (lookup : String → Option String) : Except ConfigError Config :=
  let usual : Config := {}
  checked
    ⟨(override? (lookup accountVariable)).getD usual.account,
      (override? (lookup regionVariable)).getD usual.region⟩

/-- Reads a configuration from a JSON text; a missing field takes its default. -/
def parse? (text : String) : Option Config := do
  let tree ← Json.Tree.parse? text
  let usual : Config := {}
  match ← tree.record? ["account_id", "region"] with
  | [account, region] =>
    return ⟨← Json.orElse usual.account Json.Tree.text? account,
      ← Json.orElse usual.region Json.Tree.text? region⟩
  | _ => none

end Config

instance : Json.ToTree Config where
  toTree c := .record [("account_id", .str c.account), ("region", .str c.region)]

instance : Json.ToTree ConfigError where
  toTree e := .record [("error", .str e.name), ("message", .str e.message)]

end MockCloud
