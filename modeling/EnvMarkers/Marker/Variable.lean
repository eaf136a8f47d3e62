/-!
# Marker variables

The names a marker may read from its environment, and the older spellings of some of them.  A
name is resolved to its present spelling (`canonical?`), which is always one of `names`
(`mem_names_of_canonical?`) and resolves to itself (`canonical?_of_mem`).
-/

namespace EnvMarkers.Variable

/-- The names a marker may read, in the order in which they are listed to a reader. -/
def names : List String :=
  ["implementation_name", "implementation_version", "os_name", "platform_machine",
    "platform_release", "platform_system", "platform_version", "python_full_version",
    "platform_python_implementation", "python_version", "sys_platform", "extra"]

/-- Older spellings, each with the name it stands for. -/
def aliases : List (String × String) :=
  [("os.name", "os_name"), ("sys.platform", "sys_platform"),
    ("platform.version", "platform_version"), ("platform.machine", "platform_machine"),
    ("platform.python_implementation", "platform_python_implementation"),
    ("python_implementation", "platform_python_implementation")]

/-- The present spelling of a name: itself if it is one of `names`, else what it is an older
spelling of. -/
def canonical? (name : String) : Option String :=
  if name ∈ names then some name else aliases.lookup name

theorem canonical?_of_mem {name : String} (h : name ∈ names) : canonical? name = some name :=
  if_pos h

/-- A present spelling is one of the names. -/
theorem mem_names_of_canonical? {name found : String} (h : canonical? name = some found) :
    found ∈ names := by
  unfold canonical? at h
  split at h
  · next hmem => exact Option.some.inj h ▸ hmem
  · have hpresent : ∀ p ∈ aliases, p.2 ∈ names := by decide
    obtain ⟨before, after, hsplit, -⟩ := List.lookup_eq_some_iff.mp h
    have hmem : (name, found) ∈ aliases := by
      rw [hsplit]
      exact List.mem_append_right before List.mem_cons_self
    exact hpresent (name, found) hmem

end EnvMarkers.Variable
