import KubeZoo.Convert.Ingress
import KubeZoo.Convert.NetworkPolicy
import KubeZoo.Convert.PodTemplate
import KubeZoo.Convert.Reviews
import KubeZoo.Convert.RoundTrip
import KubeZoo.Convert.Spelling
import KubeZoo.Discovery.Noninterference
import KubeZoo.Discovery.OpenAPI
import KubeZoo.Fanout.Forged
import KubeZoo.Fanout.Metadata
import KubeZoo.Filters
import KubeZoo.Projection.Cap
import KubeZoo.Projection.Finalizers
import KubeZoo.Proxy.Blind
import KubeZoo.Proxy.Classes
import KubeZoo.Proxy.DeleteCollection
import KubeZoo.Proxy.ForcedFields
import KubeZoo.Proxy.Forwarded
import KubeZoo.Proxy.ManagedNames
import KubeZoo.Proxy.NamespaceCap
import KubeZoo.Proxy.NodePorts
import KubeZoo.Proxy.Patches
import KubeZoo.Proxy.QuotaWrite
import KubeZoo.Proxy.ServiceAddress
import KubeZoo.Proxy.ServingCache
import KubeZoo.Quota.Admission
import KubeZoo.WatchMux.Converge
import KubeZoo.WatchMux.Identity
import KubeZoo.Projection.Views
import KubeZoo.Proxy.PublicClass
import KubeZoo.Proxy.TenantDNS
import KubeZoo.Quota.Conflict
import KubeZoo.Convert.Events
import KubeZoo.Quota.Handler
