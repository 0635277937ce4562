/-!
# Users

What the directory of a school says about its users: their capabilities, the courses they attend and
the cohort they belong to.
-/

set_option autoImplicit false

namespace Timetable

abbrev UserId := UInt64

abbrev CourseId := UInt64

inductive Capability where
  | admin
  | manager
  | teacher
  | student
  | slotMaster
  deriving DecidableEq

namespace Capability

def all : List Capability := [admin, manager, teacher, student, slotMaster]

/-- The bit that stands for a capability in a mask. -/
def flag : Capability → UInt32
  | admin => 1
  | manager => 2
  | teacher => 4
  | student => 8
  | slotMaster => 16

def name : Capability → String
  | admin => "Admin"
  | manager => "Manager"
  | teacher => "Teacher"
  | student => "Student"
  | slotMaster => "SlotMaster"

end Capability

/-- A set of capabilities as a mask; bits that mean nothing are dropped when it is built. -/
structure CapabilitySet where
  bits : UInt32
  deriving DecidableEq

namespace CapabilitySet

def ofBits (bits : UInt32) : CapabilitySet := ⟨bits &&& 31⟩

def empty : CapabilitySet := ⟨0⟩

def contains (s : CapabilitySet) (c : Capability) : Bool := s.bits &&& c.flag != 0

def toList (s : CapabilitySet) : List Capability := Capability.all.filter s.contains

end CapabilitySet

structure UserProfile where
  id : UserId
  capabilities : CapabilitySet
  /-- In ascending order and without repetitions. -/
  courses : List CourseId
  cohort : Option String
  deriving DecidableEq

namespace UserProfile

/-- A user about whom nothing is known. -/
def unknown (id : UserId) : UserProfile := ⟨id, CapabilitySet.empty, [], none⟩

/-- Slot masters act as supervisors of every slot. -/
def isSlotMaster (u : UserProfile) : Bool := u.capabilities.contains .slotMaster

def attends (u : UserProfile) (course : CourseId) : Bool := u.courses.contains course

/-- Puts a course among courses in ascending order, once. -/
def addCourse (course : CourseId) : List CourseId → List CourseId
  | [] => [course]
  | other :: rest =>
    if course < other then course :: other :: rest
    else if course = other then other :: rest
    else other :: addCourse course rest

end UserProfile

/-- The profiles of the users that are known. -/
abbrev Directory := List UserProfile

namespace Directory

/-- The directory with a profile more; one of the same user gives way. -/
def insert (d : Directory) (u : UserProfile) : Directory := u :: d.filter (·.id != u.id)

def ofProfiles (profiles : List UserProfile) : Directory := profiles.foldl insert []

def profile? (d : Directory) (id : UserId) : Option UserProfile := d.find? (·.id == id)

/-- The profile that counts for permissions: users without one have no capabilities. -/
def profile (d : Directory) (id : UserId) : UserProfile :=
  (d.profile? id).getD (UserProfile.unknown id)

theorem profile?_insert (d : Directory) (u : UserProfile) (id : UserId) :
    (d.insert u).profile? id = if u.id = id then some u else d.profile? id := by
  by_cases h : u.id = id
  · simp [insert, profile?, h]
  · have skip : (u.id == id) = false := by simpa using h
    rw [insert, profile?, List.find?_cons_of_neg (by simp [skip]), if_neg h, profile?,
      List.find?_filter]
    congr 1
    funext v
    by_cases hv : v.id = id
    · subst hv
      simp [Ne.symm h]
    · simp [hv]

end Directory

end Timetable
