import Webform.Form.Basic

/-!
# Sample forms

Forms to try things out with, each under a name (`Form.sample?`): between them they use every layout, nearly every kind of control,
steps, and what only documents of others have, such as a kind of control that nothing is known of.
-/

namespace Webform

namespace Sample

/-- The values and texts of choices. -/
def choices (cs : List (String × String)) : List Choice := cs.map fun c => ⟨c.1, c.2⟩

/-- One block with one required text. -/
def newsletter : Form where
  id := .ofNat 0x1000
  title := "Newsletter"
  description := "Get monthly updates."
  containers := [{
    id := .ofNat 0x1001
    fields := [{ id := .ofNat 0x1002, kind := .text, name := "email", label := "Email", isRequired := true }] }]

/-- A column of fields with a tooltip, a text of several lines and a list of topics. -/
def contact : Form where
  id := .ofNat 0x2000
  title := "Contact us"
  customCss := some ".dynamic-form .form-container \x7b border-radius: 4px; \x7d"
  containers := [{
    id := .ofNat 0x2001
    kind := .part
    style := {
      flex := { direction := "column", gap := "0.75rem" }
      box := { padding := some "1rem", border := some "1px solid #dee2e6" } }
    fields := [
      { id := .ofNat 0x2002, kind := .text, name := "name", label := "Name", placeholder := "Your name", isRequired := true },
      { id := .ofNat 0x2003, kind := .email, name := "email", label := "Email", placeholder := "you@example.com",
        tooltip := "We never share your address.", isRequired := true },
      { id := .ofNat 0x2004, kind := .select, name := "topic", label := "Topic", isRequired := true,
        choices := choices [("support", "Support"), ("sales", "Sales"), ("other", "Something else")] },
      { id := .ofNat 0x2005, kind := .textarea, name := "message", label := "Message", isRequired := true,
        rules := { minLength := some 10, maxLength := some 2000 } }] }]

/-- A grid of account fields, and preferences with radio buttons and checkboxes. -/
def registration : Form where
  id := .ofNat 0x3000
  title := "Create an account"
  containers := [
    { id := .ofNat 0x3001
      style := { layout := .grid, grid := { columns := 2, gap := "1rem" }, box := { backgroundColor := some "#f8f9fa" } }
      fields := [
        { id := .ofNat 0x3002, kind := .text, name := "username", label := "Username", isRequired := true,
          rules := { minLength := some 3, maxLength := some 16, pattern := some "[a-z0-9_]+" } },
        { id := .ofNat 0x3003, kind := .email, name := "email", label := "Email", isRequired := true,
          rules := { pattern := some "[^@\\s]+@[^@\\s]+", errorMessage := some "Enter a valid e-mail address" } },
        { id := .ofNat 0x3004, kind := .number, name := "age", label := "Age", style := { width := some "8rem" } }] },
    { id := .ofNat 0x3005
      kind := .group
      style := { layout := .columns, box := { margin := some "1rem 0" } }
      fields := [
        { id := .ofNat 0x3006, kind := .radio, name := "plan", label := "Plan", defaultValue := some "free", isRequired := true,
          choices := choices [("free", "Free"), ("pro", "Pro")] },
        { id := .ofNat 0x3007, kind := .checkbox, name := "interests", label := "Interests",
          tooltip := "Pick as many as you like.", choices := choices [("news", "News"), ("events", "Events")] }] }]

namespace Onboarding

def profile : Container where
  id := .ofNat 0x4001
  fields := [{ id := .ofNat 0x4002, kind := .text, name := "full_name", label := "Full name", isRequired := true }]

def team : Container where
  id := .ofNat 0x4003
  fields := [
    { id := .ofNat 0x4004, kind := .select, name := "team", label := "Team", isRequired := true,
      choices := choices [("eng", "Engineering"), ("ops", "Operations")] }]

end Onboarding

/-- A form of two steps, which stand in the other order than they are taken in. -/
def onboarding : Form where
  id := .ofNat 0x4000
  title := "Onboarding"
  containers := [Onboarding.profile, Onboarding.team]
  isMultiStep := true
  steps := [
    { order := 2, title := "Team", containers := [Onboarding.team] },
    { order := 1, title := "Profile", containers := [Onboarding.profile] }]

/-- A form with a kind of control that nothing is known of and a field that is shown on a condition. -/
def jobApplication : Form where
  id := .ofNat 0x6f1c2a9e4b7d4c1e9a532d8e7f0b1c44
  title := "Job application"
  description := "Apply for an open position."
  customJs := some "document.getElementById('position').focus();"
  containers := [{
    id := .ofNat 0x0b6f8d0e1f5a4b838a8e5c2d9e6a7f01
    style := {
      flex := { direction := "column", gap := "8px" }
      box := { backgroundColor := some "#ffffff", padding := some "12px", margin := some "", border := some "" } }
    fields := [
      { id := .ofNat 0xa4c3e2b10d9f4e8ab7c6d5e4f3a2b1c0, kind := .text, name := "full_name", label := "Full name",
        isRequired := true },
      { id := .ofNat 0xb5d4f3c21e0a4f9b8c7de6f5a4b3c2d1, kind := .select, name := "position", label := "Position",
        isRequired := true,
        choices := choices [("backend", "Backend engineer"), ("frontend", "Frontend engineer"),
          ("sre", "Site reliability engineer")] },
      { id := .ofNat 0xc6e5a4d32f1b4a0c9d8ef7a6b5c4d3e2, kind := .number, name := "experience", label := "Years of experience",
        placeholder := "0", tooltip := "Round down to whole years." },
      { id := .ofNat 0xd7f6b5e43a2c4b1d8e9fa8b7c6d5e4f3, kind := .unknown "file", name := "cv", label := "CV",
        tooltip := "PDF only.",
        logic := some (.object [("when", .string "position"), ("notEquals", .string "")]) }] }]

end Sample

/-- The sample form with a name. -/
def Form.sample? (name : String) : Option Form :=
  match name with
  | "newsletter" => some Sample.newsletter
  | "contact" => some Sample.contact
  | "registration" => some Sample.registration
  | "onboarding" => some Sample.onboarding
  | "job_application" => some Sample.jobApplication
  | _ => none

end Webform
