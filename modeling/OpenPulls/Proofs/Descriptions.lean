import OpenPulls.Failure

/-!
# Descriptions

The message of a failure describes the resource that was asked for, and quotes nothing: a slug may
have slashes in it, or end in what reads like the number of a pull request. A description is read
from both ends.

* The three kinds of resources begin differently, and no beginning continues another.
* The number of a pull request stands behind the last hyphen, since no digit is a hyphen.
* The project stands in front of the first slash, if it has none itself.

Without this last condition descriptions tell resources apart except for where the project ends
(`description_eq_iff`). With it they say which resource it is (`description_inj`), and so do the
messages of failures.
-/

namespace OpenPulls

/-! ## Separators -/

section Separators

variable {α : Type} [DecidableEq α] {a : α} {front front' back back' : List α}

/-- The front ends at the first separator. -/
theorem append_cons_inj_of_front (hfront : a ∉ front) (hfront' : a ∉ front') :
    front ++ a :: back = front' ++ a :: back' ↔ front = front' ∧ back = back' := by
  refine ⟨fun h => ?_, fun ⟨hf, hb⟩ => by rw [hf, hb]⟩
  have hparts := congrArg (List.splitOn a) h
  rw [List.splitOn_append_cons_self_of_not_mem hfront,
    List.splitOn_append_cons_self_of_not_mem hfront'] at hparts
  obtain rfl : front = front' := (List.cons.inj hparts).1
  exact ⟨rfl, (List.cons.inj (List.append_cancel_left h)).2⟩

/-- The back begins at the last separator. -/
theorem append_cons_inj_of_back (hback : a ∉ back) (hback' : a ∉ back') :
    front ++ a :: back = front' ++ a :: back' ↔ front = front' ∧ back = back' := by
  have hreversed (front back : List α) :
      (front ++ a :: back).reverse = back.reverse ++ a :: front.reverse := by
    rw [List.reverse_append, List.reverse_cons, List.append_assoc, List.singleton_append]
  rw [← List.reverse_inj, hreversed, hreversed,
    append_cons_inj_of_front (mt List.mem_reverse.mp hback) (mt List.mem_reverse.mp hback'),
    List.reverse_inj, List.reverse_inj, and_comm]

end Separators

/-! ## Names and numbers -/

/-- The full name of a repository: its project, a slash and its slug. -/
def Repository.fullName (r : Repository) : String := r.project ++ "/" ++ r.slug

theorem Repository.toList_fullName (r : Repository) :
    r.fullName.toList = r.project.toList ++ '/' :: r.slug.toList := by
  rw [fullName, String.toList_append, String.toList_append, List.append_assoc]
  rfl

theorem Repository.fullName_inj {r r' : Repository} (hr : '/' ∉ r.project.toList)
    (hr' : '/' ∉ r'.project.toList) : r.fullName = r'.fullName ↔ r = r' := by
  rw [← String.toList_inj, toList_fullName, toList_fullName, append_cons_inj_of_front hr hr',
    String.toList_inj, String.toList_inj, Repository.mk.injEq]

/-- A name with the number of a pull request behind it. -/
def withNumber (name : String) (number : UInt64) : String :=
  name ++ " PR-" ++ toString number.toNat

theorem toList_withNumber (name : String) (number : UInt64) : (withNumber name number).toList =
    name.toList ++ [' ', 'P', 'R'] ++ '-' :: Nat.toDigits 10 number.toNat := by
  rw [withNumber, String.toList_append, String.toList_append, ← Nat.toList_repr,
    List.append_assoc, List.append_assoc]
  rfl

theorem hyphen_notMem_toDigits (n : Nat) : '-' ∉ Nat.toDigits 10 n := fun hmem =>
  absurd (Nat.isDigit_of_mem_toDigits (by decide) (by decide) hmem) (by decide)

/-- The number can be read off the end, whatever the name. -/
theorem withNumber_inj {name name' : String} {number number' : UInt64} :
    withNumber name number = withNumber name' number' ↔ name = name' ∧ number = number' := by
  refine ⟨fun h => ?_, fun ⟨hname, hnumber⟩ => by rw [hname, hnumber]⟩
  rw [← String.toList_inj, toList_withNumber, toList_withNumber,
    append_cons_inj_of_back (hyphen_notMem_toDigits _) (hyphen_notMem_toDigits _)] at h
  obtain ⟨hname, hdigits⟩ := h
  have hvalue := congrArg (Nat.ofDigitChars 10 · 0) hdigits
  simp only [Nat.ofDigitChars_ten_toDigits] at hvalue
  exact ⟨String.toList_inj.mp (List.append_cancel_right hname), UInt64.toNat_inj.mp hvalue⟩

namespace Resource

/-! ## Headings -/

/-- The words that a description begins with. -/
def heading : Resource → String
  | .pullRequests _ => "pull requests for "
  | .buildStatuses _ => "build statuses for "
  | .commits _ _ => "pull request commits for "

/-- What stands behind the heading. -/
def subject : Resource → String
  | .pullRequests r => r.fullName
  | .buildStatuses commit => commit
  | .commits r number => withNumber r.fullName number

variable {r r' : Resource}

theorem description_eq (r : Resource) : r.description = r.heading ++ r.subject := by
  -- by definition, since equations between texts with literals in them are slow to derive
  cases r with
  | pullRequests repository =>
    change heading (.pullRequests repository) ++ repository.project ++ "/" ++ repository.slug =
      heading (.pullRequests repository) ++ (repository.project ++ "/" ++ repository.slug)
    simp only [String.append_assoc]
  | buildStatuses commit => rfl
  | commits repository number =>
    change heading (.commits repository number) ++ repository.project ++ "/" ++ repository.slug ++
        " PR-" ++ toString number.toNat =
      heading (.commits repository number) ++
        (repository.project ++ "/" ++ repository.slug ++ " PR-" ++ toString number.toNat)
    simp only [String.append_assoc]

/-- No heading continues another one. -/
theorem heading_prefixFree (h : r.heading.toList <+: r'.heading.toList) :
    r.heading = r'.heading := by
  cases r <;> cases r' <;> revert h <;> simp only [heading] <;> decide +kernel

theorem heading_append_inj {s s' : String} :
    r.heading ++ s = r'.heading ++ s' ↔ r.heading = r'.heading ∧ s = s' := by
  refine ⟨fun h => ?_, fun ⟨hheading, hs⟩ => by rw [hheading, hs]⟩
  have htext : r.heading.toList ++ s.toList = r'.heading.toList ++ s'.toList := by
    rw [← String.toList_append, h, String.toList_append]
  have hheading : r.heading = r'.heading := by
    obtain hp | hp := List.prefix_or_prefix_of_prefix (List.prefix_append _ s.toList)
      (htext ▸ List.prefix_append _ s'.toList)
    · exact heading_prefixFree hp
    · exact (heading_prefixFree hp).symm
  rw [hheading] at h
  exact ⟨hheading, (String.append_right_inj _).mp h⟩

/-! ## Descriptions -/

/-- Resources that are described alike: of one kind, for the same commit or for repositories of the
same full name, and with the same number. -/
inductive Alike : Resource → Resource → Prop
  | pullRequests {r r' : Repository} : r.fullName = r'.fullName →
      Alike (.pullRequests r) (.pullRequests r')
  | buildStatuses (commit : String) : Alike (.buildStatuses commit) (.buildStatuses commit)
  | commits {r r' : Repository} (number : UInt64) : r.fullName = r'.fullName →
      Alike (.commits r number) (.commits r' number)

theorem alike_of_subject (hheading : r.heading = r'.heading) (hsubject : r.subject = r'.subject) :
    r.Alike r' := by
  cases r with
  | pullRequests repository =>
    cases r' with
    | pullRequests repository' => exact .pullRequests hsubject
    | _ => simp [heading] at hheading
  | buildStatuses commit =>
    cases r' with
    | buildStatuses commit' =>
      obtain rfl : commit = commit' := hsubject
      exact .buildStatuses commit
    | _ => simp [heading] at hheading
  | commits repository number =>
    cases r' with
    | commits repository' number' =>
      obtain ⟨hname, rfl⟩ := withNumber_inj.mp hsubject
      exact .commits number hname
    | _ => simp [heading] at hheading

/-- **What a description says of any resource**: all of it but where the project ends. -/
theorem description_eq_iff : r.description = r'.description ↔ r.Alike r' := by
  rw [description_eq, description_eq, heading_append_inj]
  constructor
  · rintro ⟨hheading, hsubject⟩
    exact alike_of_subject hheading hsubject
  · intro h
    cases h with
    | pullRequests hname => exact ⟨rfl, hname⟩
    | buildStatuses commit => exact ⟨rfl, rfl⟩
    | commits number hname => exact ⟨rfl, withNumber_inj.mpr ⟨hname, rfl⟩⟩

/-- The slash behind the project is not told from one in its name. -/
example : (pullRequests ⟨"a/b", "c"⟩).description = (pullRequests ⟨"a", "b/c"⟩).description := by
  decide +kernel

/-- The project of the resource, if it has one, has no slash in its name. -/
def HasPlainProject : Resource → Prop
  | .pullRequests r | .commits r _ => '/' ∉ r.project.toList
  | .buildStatuses _ => True

theorem Alike.eq (h : r.Alike r') (hr : r.HasPlainProject) (hr' : r'.HasPlainProject) :
    r = r' := by
  cases h with
  | pullRequests hname => rw [(Repository.fullName_inj hr hr').mp hname]
  | buildStatuses commit => rfl
  | commits number hname => rw [(Repository.fullName_inj hr hr').mp hname]

theorem message_eq_iff (cause : Cause) :
    Failure.message ⟨r, cause⟩ = Failure.message ⟨r', cause⟩ ↔ r.description = r'.description := by
  change "Error listing " ++ r.description ++ ": " ++ cause.text =
    "Error listing " ++ r'.description ++ ": " ++ cause.text ↔ _
  rw [String.append_left_inj, String.append_left_inj, String.append_right_inj]

/-- **A description says which resource it is.** Whatever the slugs, the commits and the numbers,
two resources of projects without slashes have the same description only if they are the same. So
failures for one cause have the same message only if they are failures of one resource. -/
theorem description_inj (hr : r.HasPlainProject) (hr' : r'.HasPlainProject) :
    (r.description = r'.description ↔ r = r') ∧
      ∀ cause, Failure.message ⟨r, cause⟩ = Failure.message ⟨r', cause⟩ ↔ r = r' := by
  have hinj : r.description = r'.description ↔ r = r' :=
    ⟨fun h => (description_eq_iff.mp h).eq hr hr', fun h => by rw [h]⟩
  exact ⟨hinj, fun cause => (message_eq_iff cause).trans hinj⟩

/-- The slug of the first repository has a slash, and ends like the description of the second
resource. -/
theorem description_inj_numberInSlug :
    let r : Resource := .commits ⟨"P", "a/b PR-5"⟩ 7
    let r' : Resource := .commits ⟨"P", "a/b"⟩ 5
    r.HasPlainProject ∧ r'.HasPlainProject ∧
      r.description = "pull request commits for P/a/b PR-5 PR-7" ∧
      r'.description = "pull request commits for P/a/b PR-5" ∧ r.description ≠ r'.description ∧
      ∀ cause, Failure.message ⟨r, cause⟩ ≠ Failure.message ⟨r', cause⟩ := by
  intro r r'
  have hr : r.HasPlainProject := show '/' ∉ "P".toList by decide
  have hr' : r'.HasPlainProject := show '/' ∉ "P".toList by decide
  have hne : r ≠ r' := by decide
  obtain ⟨hdescription, hmessage⟩ := description_inj hr hr'
  exact ⟨hr, hr', by decide +kernel, by decide +kernel, fun h => hne (hdescription.mp h),
    fun cause h => hne ((hmessage cause).mp h)⟩

end Resource

end OpenPulls
