import BackupLocator.Failure

/-!
# Home directories

The variables and accounts that a program finds, and the reading of a first segment `~` or
`~name` as a home directory.
-/

namespace BackupLocator

/-- What a program finds set around it. -/
structure Environment where
  /-- The variables, each with its text. -/
  bindings : List (String × String)
  /-- The accounts, each with its home directory. -/
  accounts : List (String × String)
  /-- The home directory of the account that runs the program. -/
  ownHome : String
  deriving Inhabited

namespace Environment

/-- The text of a variable. -/
def get? (env : Environment) (name : String) : Option String :=
  env.bindings.lookup name

/-- The text of a variable, where it is set and not empty. -/
def nonEmpty? (env : Environment) (name : String) : Option String :=
  (env.get? name).filter (· ≠ "")

/-- The environment with a variable set, or taken away. -/
def set (env : Environment) (name : String) (text : Option String) : Environment :=
  let others := env.bindings.filter (·.1 ≠ name)
  { env with bindings := match text with
      | some t => (name, t) :: others
      | none => others }

theorem get?_set_self (env : Environment) (name t : String) :
    (env.set name (some t)).get? name = some t := by
  simp [set, get?]

theorem get?_set_ne (env : Environment) {name name' : String} (h : name' ≠ name)
    (text : Option String) : (env.set name text).get? name' = env.get? name' := by
  have hothers : (env.bindings.filter (·.1 ≠ name)).lookup name' = env.bindings.lookup name' := by
    induction env.bindings with
    | nil => rfl
    | cons b bindings ih =>
      obtain ⟨key, t⟩ := b
      by_cases hkey : key = name
      · have hb : (name' == name) = false := by simpa using h
        simpa [hkey, hb, List.lookup_cons] using ih
      · simp only [List.filter_cons, hkey, decide_true, not_false_eq_true, ne_eq, if_true,
          List.lookup_cons, ih]
  have hb : (name' == name) = false := by simpa using h
  cases text <;> simpa [set, get?, List.lookup_cons, hb] using hothers

/-- The text without the slashes at its end; a slash where nothing is left. -/
def trimSlashes (s : String) : String :=
  let kept := (s.toList.reverse.dropWhile (· = '/')).reverse
  if kept.isEmpty then "/" else String.ofList kept

/-- The home directory that the segment `~` followed by `name` stands for. A name that is not
empty is looked up among the accounts. -/
def homeOf (env : Environment) (name : String) : Except Failure String :=
  if name = "" then .ok (trimSlashes ((env.get? "HOME").getD env.ownHome))
  else if name.toList.contains '\x00' then .error .malformed
  else match env.accounts.lookup name with
    | some home => .ok (trimSlashes home)
    | none => .error .homeless

end Environment

namespace Path

/-- The segments behind the first one. -/
def behindFirst (p : Path) : Path :=
  ⟨.relative, p.parts.tail, fun s h => p.segments s (List.mem_of_mem_tail h)⟩

/-- The path with a first segment `~` or `~name` read as a home directory. A home directory that
itself begins with `~` is none. -/
def expandHome (env : Environment) (p : Path) : Except Failure Path :=
  match p.isAbsolute, p.parts.head?.map String.toList with
  | false, some ('~' :: name) => do
    let home ← env.homeOf (String.ofList name)
    if home.toList.head? = some '~' then .error .homeless
    else .ok ((ofText home).join p.behindFirst)
  | _, _ => .ok p

/-- The path that a text names, with `~` read as a home directory. -/
def ofHomeText (env : Environment) (s : String) : Except Failure Path :=
  (ofText s).expandHome env

end Path

end BackupLocator
