import MockCloud.Config
import MockCloud.Proofs.Text.Trimming

/-! # Valid configurations

An account is twelve digits. A region is written in groups with one dash between each two of them: words of small
letters, at least two, and then a number. Both are read as characters, so a digit or a letter of another script is none.

* `TwelveDigits account`, `isAccountId_iff`: the rule for accounts.
* `RegionName region`, `isRegionName_iff`: the rule for regions.
* `new_eq_ok_iff`, `new_eq_error_iff`: what a configuration is made from, and with which error it is refused.
* `Gives usual value text`, `gives_iff`: the text that a variable gives, where this one is usual.
* `valid_exactly`: all of this, and that only valid configurations are read from variables. -/

namespace MockCloud.Config

/-! ### Accounts and regions -/

/-- One of the ten ASCII digits. -/
def IsDigit (c : Char) : Prop :=
  '0' ≤ c ∧ c ≤ '9'

/-- One of the twenty-six small ASCII letters. -/
def IsSmall (c : Char) : Prop :=
  'a' ≤ c ∧ c ≤ 'z'

/-- Twelve digits and nothing else. -/
structure TwelveDigits (account : String) : Prop where
  twelve : account.toList.length = 12
  digits : ∀ c ∈ account.toList, IsDigit c

/-- At least one character, and all of them of this kind. -/
structure Group (kind : Char → Prop) (part : List Char) : Prop where
  ne_nil : part ≠ []
  each : ∀ c ∈ part, kind c

/-- Two words or more and a number behind them, with a dash between each two. -/
def RegionName (region : String) : Prop :=
  ∃ words number, 2 ≤ words.length ∧ (∀ word ∈ words, Group IsSmall word) ∧ Group IsDigit number ∧
    region.toList = ['-'].intercalate (words ++ [number])

theorem isDigit_iff {c : Char} : c.isDigit = true ↔ IsDigit c :=
  Bool.and_eq_true_iff.trans (and_congr decide_eq_true_iff decide_eq_true_iff)

theorem isLower_iff {c : Char} : c.isLower = true ↔ IsSmall c :=
  Bool.and_eq_true_iff.trans (and_congr decide_eq_true_iff decide_eq_true_iff)

theorem isAccountId_iff {account : String} : isAccountId account = true ↔ TwelveDigits account := by
  simp only [isAccountId, Bool.and_eq_true, decide_eq_true_eq, List.all_eq_true, isDigit_iff]
  exact ⟨fun h => ⟨h.1, h.2⟩, fun h => ⟨h.twelve, h.digits⟩⟩

theorem group_iff {p : Char → Bool} {kind : Char → Prop} (same : ∀ {c}, p c = true ↔ kind c) {part : List Char} :
    (!part.isEmpty && part.all p) = true ↔ Group kind part := by
  simp only [Bool.and_eq_true, Bool.not_eq_true', List.isEmpty_eq_false_iff, List.all_eq_true, same]
  exact ⟨fun h => ⟨h.1, h.2⟩, fun h => ⟨h.ne_nil, h.each⟩⟩

/-- No group has a dash in it, so that the dashes of a region are the ones between its groups. -/
theorem dash_not_mem {words : List (List Char)} {number : List Char} (small : ∀ word ∈ words, Group IsSmall word)
    (digits : Group IsDigit number) : ∀ part ∈ words ++ [number], '-' ∉ part := by
  intro part among dash
  rcases List.mem_append.1 among with word | last
  · exact absurd (isLower_iff.2 ((small part word).each '-' dash)) (by decide)
  · rw [List.mem_singleton.1 last] at dash
    exact absurd (isDigit_iff.2 (digits.each '-' dash)) (by decide)

/-- The checks of the groups, once they are counted out. -/
theorem groups_iff {words : List (List Char)} {number : List Char} :
    (2 ≤ words.length && !number.isEmpty && number.all Char.isDigit &&
        words.all fun part => !part.isEmpty && part.all Char.isLower) = true ↔
      2 ≤ words.length ∧ Group IsDigit number ∧ ∀ word ∈ words, Group IsSmall word := by
  rw [Bool.and_eq_true, Bool.and_assoc, Bool.and_eq_true, decide_eq_true_eq, group_iff isDigit_iff, List.all_eq_true,
    and_assoc]
  simp only [group_iff isLower_iff]

theorem isRegionName_iff {region : String} : isRegionName region = true ↔ RegionName region := by
  unfold isRegionName
  constructor
  · intro accepted
    split at accepted
    · next number backwards parts =>
      obtain ⟨two, digits, small⟩ := groups_iff.1 accepted
      refine ⟨backwards.reverse, number, by rwa [List.length_reverse], fun word among => small word (by simpa using among),
        digits, ?_⟩
      rw [← List.reverse_cons, ← parts, List.reverse_reverse, List.intercalate_splitOn]
    · cases accepted
  · rintro ⟨words, number, two, small, digits, spelt⟩
    have parts : region.toList.splitOn '-' = words ++ [number] := by
      rw [spelt, List.splitOn_intercalate '-' (dash_not_mem small digits) (by simp)]
    rw [parts, List.reverse_append, List.reverse_singleton, List.singleton_append]
    exact groups_iff.2 ⟨by rwa [List.length_reverse], digits, fun word among => small word (List.mem_reverse.1 among)⟩

instance (account : String) : Decidable (TwelveDigits account) :=
  decidable_of_iff _ isAccountId_iff

instance (region : String) : Decidable (RegionName region) :=
  decidable_of_iff _ isRegionName_iff

/-- The account is looked at first. -/
theorem new_eq (account region : String) : new account region =
    if TwelveDigits account then
      if RegionName region then .ok ⟨account, region⟩ else .error (.invalidRegion region)
    else .error (.invalidAccountId account) := by
  unfold new checked validate
  simp only [← isAccountId_iff, ← isRegionName_iff]
  cases isAccountId account <;> cases isRegionName region <;> rfl

theorem new_eq_ok_iff {account region : String} {c : Config} :
    new account region = .ok c ↔ c = ⟨account, region⟩ ∧ TwelveDigits account ∧ RegionName region := by
  rw [new_eq]
  split_ifs with twelve named <;> simp [*, eq_comm]

theorem new_eq_error_iff {account region : String} {e : ConfigError} : new account region = .error e ↔
    ¬TwelveDigits account ∧ e = .invalidAccountId account ∨
      TwelveDigits account ∧ ¬RegionName region ∧ e = .invalidRegion region := by
  rw [new_eq]
  split_ifs with twelve named <;> simp [*, eq_comm]

/-- Only valid configurations are made. -/
theorem validate_of_checked {c made : Config} (h : checked c = .ok made) : made = c ∧ made.validate = .ok () := by
  unfold checked at h
  cases valid : c.validate with
  | error e => rw [valid] at h; cases h
  | ok u =>
    rw [valid] at h
    cases h
    exact ⟨rfl, valid⟩

/-! ### Variables -/

/-- What a variable gives. If it is missing, or has nothing but blank characters, it is what is usual. Else it is the
text that is left when the blank characters at both ends are taken away. -/
inductive Gives (usual : String) : Option String → String → Prop
  | missing : Gives usual none usual
  | blank {value : String} (all : ∀ c ∈ value.toList, Text.isBlank c = true) : Gives usual (some value) usual
  | given {value text : String} {front back : List Char} (ne : text ≠ "") (trimmed : Text.Trimmed text.toList)
      (ahead : ∀ c ∈ front, Text.isBlank c = true) (behind : ∀ c ∈ back, Text.isBlank c = true)
      (whole : value.toList = front ++ text.toList ++ back) : Gives usual (some value) text

theorem override?_of_blank {value : String} (all : ∀ c ∈ value.toList, Text.isBlank c = true) :
    override? (some value) = none := by
  simp [override?, Text.trimmed, Text.trim_eq_nil_iff.2 all]

theorem override?_of_trim {value text : String} (ne : text ≠ "") (h : Text.trim value.toList = text.toList) :
    override? (some value) = some text := by
  simp [override?, Text.trimmed, h, ne]

theorem gives_iff {usual : String} {value : Option String} {text : String} :
    Gives usual value text ↔ text = (override? value).getD usual := by
  constructor
  · rintro (_ | all | ⟨ne, trimmed, ahead, behind, whole⟩)
    · rfl
    · rw [override?_of_blank all, Option.getD_none]
    · rw [override?_of_trim ne (by rw [whole, Text.trim_append_of_blank ahead behind, trimmed.trim_eq]),
        Option.getD_some]
  · rintro rfl
    cases value with
    | none => exact .missing
    | some value =>
      by_cases all : ∀ c ∈ value.toList, Text.isBlank c = true
      · rw [override?_of_blank all]
        exact .blank all
      · obtain ⟨front, back, ahead, behind, whole⟩ := Text.exists_blank_ends value.toList
        have trim : Text.trim value.toList = (Text.trimmed value).toList := String.toList_ofList.symm
        have ne : Text.trimmed value ≠ "" := by
          rwa [← Text.trim_eq_nil_iff, trim, String.toList_eq_nil_iff] at all
        have trimmed := Text.trimmed_trim value.toList
        rw [trim] at trimmed whole
        rw [override?_of_trim ne trim, Option.getD_some]
        exact .given ne trimmed ahead behind whole

/-- **Validity.** A configuration is made exactly from twelve digits and the name of a region, and then it is the one
that was asked for. A wrong account is an error whatever the region is, and a wrong region is one if the account is
right. Each of the two variables gives one text, and these two are what a configuration is read from, under the same
rules. So every one that is read is valid. -/
theorem valid_exactly :
    (∀ account region,
      (∀ c, new account region = .ok c ↔ c = ⟨account, region⟩ ∧ TwelveDigits account ∧ RegionName region) ∧
      ∀ e, new account region = .error e ↔
        ¬TwelveDigits account ∧ e = .invalidAccountId account ∨
          TwelveDigits account ∧ ¬RegionName region ∧ e = .invalidRegion region) ∧
    ∀ lookup, ∃ account region,
      (∀ text, Gives "123456789012" (lookup "MOCK_ACCOUNT_ID") text ↔ text = account) ∧
      (∀ text, Gives "us-east-1" (lookup "MOCK_REGION") text ↔ text = region) ∧
      ofLookup lookup = new account region ∧ ∀ c, ofLookup lookup = .ok c → c = ⟨account, region⟩ ∧ c.validate = .ok () :=
  ⟨fun _ _ => ⟨fun _ => new_eq_ok_iff, fun _ => new_eq_error_iff⟩, fun _ =>
    ⟨_, _, fun _ => gives_iff, fun _ => gives_iff, rfl, fun _ => validate_of_checked⟩⟩

/-- An account that is blank and a region between blank characters, one of which is no ASCII character. -/
def spaced (name : String) : Option String :=
  if name = accountVariable then some " \t"
  else if name = regionVariable then some "\u00a0eu-west-2\n"
  else none

/-- The usual account is taken with that region. A dash too many makes no group. -/
theorem valid_exactly_spaced :
    ofLookup spaced = .ok ⟨"123456789012", "eu-west-2"⟩ ∧ validate ⟨"123456789012", "eu-west-2"⟩ = .ok () ∧
      new "123456789012" "eu--west-2" = .error (.invalidRegion "eu--west-2") := by
  obtain ⟨made, read⟩ := valid_exactly
  obtain ⟨account, region, accounts, regions, same, valid⟩ := read spaced
  have blank : spaced "MOCK_ACCOUNT_ID" = some " \t" := rfl
  have given : spaced "MOCK_REGION" = some "\u00a0eu-west-2\n" := rfl
  rw [blank] at accounts
  rw [given] at regions
  obtain rfl : "123456789012" = account := (accounts _).1 (.blank (by simp [Text.isBlank]))
  have whole : "\u00a0eu-west-2\n".toList = ['\u00a0'] ++ "eu-west-2".toList ++ ['\n'] := by decide
  obtain rfl : "eu-west-2" = region :=
    (regions _).1 (.given (by decide) ⟨by rintro _ ⟨⟩; rfl, by rintro _ ⟨⟩; rfl⟩ (by simp [Text.isBlank])
      (by simp [Text.isBlank]) whole)
  have twelve : TwelveDigits "123456789012" := by decide
  have found : ofLookup spaced = .ok ⟨"123456789012", "eu-west-2"⟩ :=
    same.trans (((made _ _).1 _).2 ⟨rfl, twelve, by decide +kernel⟩)
  exact ⟨found, (valid _ found).2, ((made _ _).2 _).2 (.inr ⟨twelve, by decide +kernel, rfl⟩)⟩

end MockCloud.Config
