import AffinityAssistant.Sha256
import AffinityAssistant.Types
import Mathlib.Data.String.Basic

set_option autoImplicit false

namespace AffinityAssistant
open Sha256

def componentNameAffinityAssistant : String := "affinity-assistant"
def labelComponent : String := "app.kubernetes.io/component"
def labelInstance : String := "app.kubernetes.io/instance"
def pipelineRunLabelKey : String := "tekton.dev/pipelineRun"

/-- The ten hex digits `hashString[:10]` of the digest of a string. -/
@[irreducible] def hashPrefix (s : String) : String := (sprintfHex (sum256 (bytesOf s))).take 10

def getAffinityAssistantName (pipelineWorkspaceName pipelineRunName : String) : String :=
  componentNameAffinityAssistant ++ "-" ++ hashPrefix (pipelineWorkspaceName ++ pipelineRunName)

theorem hashPrefix_spec (s : String) :
    (hashPrefix s).length = 10 ∧ ∀ c ∈ (hashPrefix s).data, c ∈ hexDigits := by
  obtain ⟨hl, hb⟩ := sum256_spec (bytesOf s)
  obtain ⟨hl', hc⟩ := sprintfHex_spec hb
  unfold hashPrefix
  refine ⟨?_, fun c h => hc c (List.mem_of_mem_take (by rwa [String.data_take] at h))⟩
  have hdata : (sprintfHex (sum256 (bytesOf s))).data.length = 64 := by
    rw [← String.length, hl', hl]
  rw [String.length, String.data_take, List.length_take, hdata]
  rfl

/-- Every assistant name is `affinity-assistant-` and ten lower-case hex digits, 29
characters whatever the workspace and PipelineRun names: a valid label value and object
name, with room for the pod suffix `-0`. -/
theorem getAffinityAssistantName_format (w r : String) :
    (getAffinityAssistantName w r).length = 29 ∧
      ∃ h, getAffinityAssistantName w r = "affinity-assistant-" ++ h ∧ ∀ c ∈ h.data, c ∈ hexDigits := by
  obtain ⟨hl, hc⟩ := hashPrefix_spec (w ++ r)
  refine ⟨?_, _, rfl, hc⟩
  rw [getAffinityAssistantName, String.length_append, hl]
  rfl

theorem string_append_left_cancel_iff (a b c : String) : a ++ b = a ++ c ↔ b = c := by
  simp [String.ext_iff]

theorem getAffinityAssistantName_eq_iff (w r w' r' : String) :
    getAffinityAssistantName w r = getAffinityAssistantName w' r' ↔
      hashPrefix (w ++ r) = hashPrefix (w' ++ r') :=
  string_append_left_cancel_iff _ _ _

theorem getAffinityAssistantName_of_append_eq {w r w' r' : String} (h : w ++ r = w' ++ r') :
    getAffinityAssistantName w r = getAffinityAssistantName w' r' := by
  unfold getAffinityAssistantName
  rw [h]

def getStatefulSetLabels (pr : PipelineRun) (affinityAssistantName : String) :
    List (String × String) :=
  mapSet (mapSet (mapSet pr.labels pipelineRunLabelKey pr.name) labelInstance affinityAssistantName)
    labelComponent componentNameAffinityAssistant

def newControllerRef (pr : PipelineRun) : OwnerReference :=
  ⟨"tekton.dev/v1", "PipelineRun", pr.name, pr.uid, true, true⟩

end AffinityAssistant
