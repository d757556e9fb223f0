import OpenWater.Backend.Readings
import OpenWater.Ingestion.Redelivery
import OpenWater.Ingestion.Delivery
import OpenWater.Ingestion.Service
import OpenWater.Backend.Config
import OpenWater.Backend.Schemas
import OpenWater.Backend.Devices
import OpenWater.Backend.Latest
import OpenWater.Backend.Pool
import OpenWater.Backend.Routing
import OpenWater.Backend.Serving
import OpenWater.Backend.Walks
import OpenWater.Ingestion.Supervisor
import OpenWater.Backend.Arguments
import OpenWater.Backend.Cors
import OpenWater.Framework.Backoff
import OpenWater.Framework.Effect
import OpenWater.Frontend.Hooks
import OpenWater.Ingestion.Backoff
import OpenWater.Ingestion.Hosts
import OpenWater.Backend.Application
import OpenWater.Backend.EndToEnd
import OpenWater.Backend.Isolation
import OpenWater.Backend.Windows
import OpenWater.Frontend.Analytics
import OpenWater.Frontend.Navigation
import OpenWater.Ingestion.Drain
import OpenWater.Ingestion.Process
import OpenWater.Ingestion.Topics
