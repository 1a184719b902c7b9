import AffinityAssistant.ClusterEvents

set_option autoImplicit false

namespace AffinityAssistant

section
variable {r : Reconciler}

end

end AffinityAssistant
