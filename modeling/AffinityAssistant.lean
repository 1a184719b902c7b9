import AffinityAssistant.Sha256
import AffinityAssistant.Types
import AffinityAssistant.Names
import AffinityAssistant.StatefulSet
import AffinityAssistant.Client
import AffinityAssistant.CreateOrUpdate
import AffinityAssistant.Cordon
import AffinityAssistant.Reconcile
import AffinityAssistant.Runs
import AffinityAssistant.Creation
import AffinityAssistant.ClaimNames
import AffinityAssistant.Cleanup
import AffinityAssistant.Isolation
import AffinityAssistant.PodTemplate
import AffinityAssistant.SteadyState
import AffinityAssistant.Repair
import AffinityAssistant.System
import AffinityAssistant.ClusterEvents
import AffinityAssistant.AntiAffinity
